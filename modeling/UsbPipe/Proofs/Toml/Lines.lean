/-
Printed lines are read back.

A printed document has a header for every section, and below it a line for every key, with a
text in quotes or a number behind the equals sign.  The reader takes such a line for the
statement that it was printed for, whatever lines follow it, and passes over blank ones.

* `ReadsValue`: a text that is read as a value up to the end of its line;
  `readsValue_quoted`, `readsValue_decimal`.
* `IsBareKey`: the names that need no quotes; `keys?_bare`.
* `Says`: a line and its statement; `says_header`, `says_pair`.
* `ReadsLines`: lines and their statements, put together from first to last.
-/
import Mathlib.Tactic.Common
import UsbPipe.Toml.Parser
import UsbPipe.Toml.Printer

namespace UsbPipe.Toml

open Text

variable {cs ds rest : List Char}

/-! ### Blanks -/

lemma skipBlanks_cons {c : Char} (h : isSpace c = false) (cs : List Char) :
    skipBlanks (c :: cs) = c :: cs :=
  List.dropWhile_cons_of_neg (by simp [h])

/-- The end of a line, where the line ends. -/
lemma lineEnd?_newline (cs : List Char) : lineEnd? ('\n' :: cs) = some cs := rfl

/-! ### Values -/

/-- A text is read as a value up to the end of its line. -/
structure ReadsValue (text : List Char) (v : Toml) : Prop where
  begins : ∀ rest, skipBlanks (text ++ '\n' :: rest) = text ++ '\n' :: rest
  read : ∀ rest, value? maxDepth (text ++ '\n' :: rest) = some (v, '\n' :: rest)

/-- A text of plain characters is read back from its quotes. -/
lemma readsValue_quoted (h : cs.all isBare = true) :
    ReadsValue (quoted cs) (.str (String.ofList cs)) := by
  have hquoted := quoted_plain h
  refine ⟨fun rest => ?_, fun rest => ?_⟩
  · rw [hquoted]
    exact skipBlanks_cons (by decide) _
  · have hshort := shortString?_quoted h ('\n' :: rest)
    have hstring : string? (quoted cs ++ '\n' :: rest) = some (cs, '\n' :: rest) := by
      rw [hquoted] at hshort ⊢
      rw [string?]
      · exact hshort
      · -- no three quotes in a row: the second character is plain, or the third a line end
        intro more hmore
        cases cs with
        | nil => simp at hmore
        | cons c cs =>
            simp only [List.all_cons, isBare, Bool.and_eq_true, bne_iff_ne] at h
            simp only [List.cons_append, List.cons.injEq, true_and] at hmore
            exact h.1.1.2 hmore.1
      · intro more hmore
        simp at hmore
    rw [hquoted] at hstring ⊢
    obtain ⟨tail, htail⟩ : ∃ tail, '"' :: cs ++ ['"'] ++ '\n' :: rest = '"' :: tail := ⟨_, rfl⟩
    rw [htail] at hstring ⊢
    show scalar? ('"' :: tail) = _
    rw [scalar?, if_pos (Or.inl rfl), hstring]
    rfl

/-! ### Numbers -/

/-- What is no digit differs from a digit. -/
lemma ne_of_isDigit {c d : Char} (hc : c.isDigit = true) (hd : d.isDigit = false) : c ≠ d := by
  rintro rfl
  simp [hd] at hc

/-- Digits are read up to the end of the line. -/
lemma digitsAfter?_newline (hds : ds.all Char.isDigit = true) (rest : List Char) :
    digitsAfter? Char.isDigit (ds ++ '\n' :: rest) = some (ds, '\n' :: rest) := by
  induction ds with
  | nil => rfl
  | cons d ds ih =>
      rw [List.all_cons, Bool.and_eq_true] at hds
      have hne : d ≠ '_' := ne_of_isDigit hds.1 (by decide)
      rw [List.cons_append, digitsAfter?]
      · rw [if_pos hds.1, ih hds.2]
        rfl
      · exact fun h => absurd h hne
      · exact fun _ _ h => absurd h hne

/-- Digits at the front of a line whose other characters are digits too are followed by one more
digit or by the end of the line. -/
lemma boundedDigits?_newline (hds : ds.all Char.isDigit = true) {count low high n : ℕ}
    {more : List Char}
    (h : boundedDigits? count low high (ds ++ '\n' :: rest) = some (n, more)) :
    ∃ c tail, more = c :: tail ∧ (c.isDigit = true ∨ c = '\n') := by
  rw [boundedDigits?] at h
  split_ifs at h with hdigits
  obtain ⟨-, hall, -, -⟩ := hdigits
  obtain rfl : more = (ds ++ '\n' :: rest).drop count := (Prod.mk.inj (Option.some.inj h)).2.symm
  have hcount : count ≤ ds.length := by
    by_contra hlt
    have hmem : '\n' ∈ (ds ++ '\n' :: rest).take count := by
      rw [List.take_append, List.mem_append]
      refine Or.inr ?_
      obtain ⟨k, hk⟩ : ∃ k, count - ds.length = k + 1 := ⟨count - ds.length - 1, by omega⟩
      rw [hk, List.take_succ_cons]
      exact List.mem_cons_self ..
    exact absurd (List.all_eq_true.mp hall _ hmem) (by decide)
  rw [List.drop_append_of_le_length hcount]
  cases hdrop : ds.drop count with
  | nil => exact ⟨'\n', rest, rfl, Or.inr rfl⟩
  | cons c tail =>
      have hmem : c ∈ ds := List.mem_of_mem_drop (hdrop ▸ List.mem_cons_self ..)
      exact ⟨c, tail ++ '\n' :: rest, rfl, Or.inl (List.all_eq_true.mp hds c hmem)⟩

/-- A line of digits is no date. -/
lemma date?_newline (hds : ds.all Char.isDigit = true) (rest : List Char) :
    date? (ds ++ '\n' :: rest) = none := by
  have hexpect : ∀ {count low high n : ℕ} {more : List Char} {c : Char},
      boundedDigits? count low high (ds ++ '\n' :: rest) = some (n, more) →
      c.isDigit = false → c ≠ '\n' → expect? c more = none := by
    intro count low high n more c h hdigit hne
    obtain ⟨d, tail, rfl, hd⟩ := boundedDigits?_newline hds h
    have hcd : c ≠ d := by
      rcases hd with hd | rfl
      · exact (ne_of_isDigit hd hdigit).symm
      · exact hne
    rw [expect?, if_neg hcd]
  have hday : day? (ds ++ '\n' :: rest) = none := by
    rw [day?]
    cases h : boundedDigits? 4 0 9999 (ds ++ '\n' :: rest) with
    | none => rfl
    | some year =>
        obtain ⟨n, more⟩ := year
        simp [hexpect h (by decide : '-'.isDigit = false) (by decide)]
  have htime : time? (ds ++ '\n' :: rest) = none := by
    rw [time?]
    cases h : boundedDigits? 2 0 23 (ds ++ '\n' :: rest) with
    | none => rfl
    | some hour =>
        obtain ⟨n, more⟩ := hour
        simp [hexpect h (by decide : ':'.isDigit = false) (by decide)]
  rw [date?, hday, htime]
  rfl

/-- The digits of a number are read up to the end of the line. -/
lemma whole?_decimal (n : ℕ) (rest : List Char) :
    whole? (decimal n ++ '\n' :: rest) = some (decimal n, '\n' :: rest) := by
  have hall := all_isDigit_decimal n
  cases hd : decimal n with
  | nil => exact absurd hd (decimal_ne_nil n)
  | cons c ds =>
      rw [hd] at hall
      by_cases hzero : c = '0'
      · -- only zero is written with a zero in front
        subst hzero
        have hn := head_decimal n ds hd
        subst hn
        rw [decimal] at hd
        obtain rfl : ds = [] := by simpa [decimalDigit] using hd.symm
        rfl
      · rw [List.all_cons, Bool.and_eq_true] at hall
        rw [List.cons_append, whole?]
        · rw [digits?, if_pos hall.1, digitsAfter?_newline hall.2]
          rfl
        · exact fun _ h => hzero (List.cons.inj h).1

/-- A line of digits starts with none of the letters of a base, and with no sign. -/
lemma decimal_newline (n : ℕ) (rest : List Char) :
    ∃ c tail, decimal n ++ '\n' :: rest = c :: tail ∧ c.isDigit = true ∧
      ∀ d ∈ tail.head?, d.isDigit = true ∨ d = '\n' := by
  have hall := all_isDigit_decimal n
  cases hd : decimal n with
  | nil => exact absurd hd (decimal_ne_nil n)
  | cons c ds =>
      rw [hd, List.all_cons, Bool.and_eq_true] at hall
      refine ⟨c, ds ++ '\n' :: rest, rfl, hall.1, fun d hmem => ?_⟩
      cases ds with
      | nil => exact Or.inr (Option.some.inj hmem).symm
      | cons e ds =>
          rw [List.all_cons, Bool.and_eq_true] at hall
          exact Or.inl (Option.some.inj hmem ▸ hall.2.1)

/-- A printed number is read back as an integer, if 64 bits hold it. -/
lemma number?_decimal {n : ℕ} (h : fits n = true) (rest : List Char) :
    number? (decimal n ++ '\n' :: rest) = some (.int n, '\n' :: rest) := by
  have hwhole := whole?_decimal n rest
  obtain ⟨c, tail, htext, hdigit, hnext⟩ := decimal_newline n rest
  rw [htext] at hwhole ⊢
  have hne : ∀ d : Char, d.isDigit = false → c ≠ d := fun _ => ne_of_isDigit hdigit
  have hsign : sign (c :: tail) = (false, c :: tail) := by
    rw [sign]
    · exact fun _ h => hne '+' (by decide) (List.cons.inj h).1
    · exact fun _ h => hne '-' (by decide) (List.cons.inj h).1
  have hspecial : special? (c :: tail) = none := by
    rw [special?, hsign]
    split
    · next heq => exact absurd (List.cons.inj heq).1 (hne 'i' (by decide))
    · next heq => exact absurd (List.cons.inj heq).1 (hne 'n' (by decide))
    · rfl
  have hdecimal : decimal? (c :: tail) = some (.int n, '\n' :: rest) := by
    simp [decimal?, hsign, hwhole, exponent?, integer?, h, decimalValue_decimal]
  have hletter : ∀ (d : Char) (more : List Char), d.isDigit = false → d ≠ '\n' →
      tail ≠ d :: more := by
    rintro d more hd hd' rfl
    rcases hnext d rfl with h | h
    · simp [hd] at h
    · exact hd' h
  rw [number?, hspecial, hdecimal]
  · rfl
  · exact fun _ h => hletter 'x' _ (by decide) (by decide) (List.cons.inj h).2
  · exact fun _ h => hletter 'o' _ (by decide) (by decide) (List.cons.inj h).2
  · exact fun _ h => hletter 'b' _ (by decide) (by decide) (List.cons.inj h).2

/-- A printed number is read back at the end of its line. -/
lemma readsValue_decimal {n : ℕ} (h : fits n = true) : ReadsValue (decimal n) (.int n) := by
  refine ⟨fun rest => ?_, fun rest => ?_⟩
  · obtain ⟨c, tail, htext, hdigit, -⟩ := decimal_newline n rest
    rw [htext]
    refine skipBlanks_cons ?_ _
    simp only [isSpace, Bool.or_eq_false_iff, beq_eq_false_iff_ne]
    exact ⟨ne_of_isDigit hdigit (by decide), ne_of_isDigit hdigit (by decide)⟩
  · have hnumber := number?_decimal h rest
    have hdate := date?_newline (all_isDigit_decimal n) rest
    obtain ⟨c, tail, htext, hdigit, -⟩ := decimal_newline n rest
    rw [htext] at hnumber hdate ⊢
    have hne : ∀ d : Char, d.isDigit = false → c ≠ d := fun _ => ne_of_isDigit hdigit
    show value? (78 + 1) (c :: tail) = _
    rw [value?]
    · rw [scalar?, if_neg, if_neg (hne 't' (by decide)), if_neg (hne 'f' (by decide)), hdate,
        hnumber]
      · rfl
      · exact not_or.mpr ⟨hne _ (by decide), hne _ (by decide)⟩
    · exact fun _ h => hne '[' (by decide) (List.cons.inj h).1
    · exact fun _ h => hne '\x7b' (by decide) (List.cons.inj h).1

/-! ### Keys -/

/-- A name that needs no quotes. -/
structure IsBareKey (key : List Char) : Prop where
  ne_nil : key ≠ []
  all : key.all isKeyChar = true

/-- A name without quotes starts with none of the signs that mean something at the start of a
line or of a key. -/
lemma IsBareKey.begins {key : List Char} (h : IsBareKey key) :
    ∃ c tail, key = c :: tail ∧ isSpace c = false ∧
      ∀ d ∈ ['"', '\'', '[', '#', '\n', '\r'], c ≠ d := by
  obtain ⟨hne, hall⟩ := h
  cases key with
  | nil => exact absurd rfl hne
  | cons c tail =>
      rw [List.all_cons, Bool.and_eq_true] at hall
      have hne : ∀ d ∈ [' ', '\t', '"', '\'', '[', '#', '\n', '\r'], c ≠ d := by
        rintro d hd rfl
        have hnone : [' ', '\t', '"', '\'', '[', '#', '\n', '\r'].any isKeyChar = false := by decide
        simp [List.any_eq_false.mp hnone c hd] at hall
      refine ⟨c, tail, rfl, ?_, fun d hd => hne d (by simp_all)⟩
      simp only [isSpace, Bool.or_eq_false_iff, beq_eq_false_iff_ne]
      exact ⟨hne ' ' (by simp), hne '\t' (by simp)⟩

/-- A name is read up to the first character that names do not have. -/
lemma key?_bare {key : List Char} (h : IsBareKey key) {c : Char} (hc : isKeyChar c = false)
    (rest : List Char) : key? (key ++ c :: rest) = some (String.ofList key, c :: rest) := by
  have hall := List.all_eq_true.mp h.all
  have hshort : shortString? (key ++ c :: rest) = none := by
    obtain ⟨d, tail, rfl, -, hd⟩ := h.begins
    rw [List.cons_append, shortString?]
    · exact fun _ h => hd '"' (by simp) (List.cons.inj h).1
    · exact fun _ h => hd '\'' (by simp) (List.cons.inj h).1
  have hneg : ¬ isKeyChar c = true := by simp [hc]
  rw [key?, hshort, List.takeWhile_append_of_pos hall, List.dropWhile_append_of_pos hall,
    List.takeWhile_cons_of_neg hneg, List.dropWhile_cons_of_neg hneg, List.append_nil]
  obtain ⟨d, tail, rfl, -⟩ := h.begins
  rfl

/-- A name that is not followed by a point is a whole key. -/
lemma keys?_bare {key : List Char} (h : IsBareKey key) {c : Char} (hc : isKeyChar c = false)
    {rest more : List Char} (hmore : skipBlanks (c :: rest) = more)
    (hpoint : more.head? ≠ some '.') :
    keys? maxDepth (key ++ c :: rest) = some ([String.ofList key], more) := by
  have hskip : skipBlanks (key ++ c :: rest) = key ++ c :: rest := by
    obtain ⟨d, tail, rfl, hd, -⟩ := h.begins
    exact skipBlanks_cons hd _
  show keys? (78 + 1) _ = _
  rw [keys?, hskip, key?_bare h hc]
  simp only [Option.bind_eq_bind, Option.bind_some, hmore]
  split
  · next heq => simp at hpoint
  · rfl

/-! ### Statements -/

/-- A line is read as a statement up to its end. -/
structure Says (text : List Char) (s : Statement) : Prop where
  begins : ∃ c tail, text = c :: tail ∧ isSpace c = false ∧ ∀ d ∈ ['#', '\n', '\r'], c ≠ d
  read : ∀ rest, statement? (text ++ '\n' :: rest) = some (s, '\n' :: rest)

lemma statement?_table {path : List String} {more : List Char} (h : cs.head? ≠ some '[')
    (hkeys : keys? maxDepth cs = some (path, ']' :: more)) :
    statement? ('[' :: cs) = some (.table path, more) := by
  rw [statement?]
  · simp [hkeys, expect?]
  · rintro tail rfl
    exact h rfl

lemma statement?_pair {keys : List String} {v : Toml} {more : List Char}
    (h : cs.head? ≠ some '[') (hpair : pair? (value? maxDepth) cs = some ((keys, v), more)) :
    statement? cs = some (.pair keys v, more) := by
  rw [statement?, hpair]
  · rfl
  · rintro tail rfl
    exact h rfl
  · rintro tail rfl
    exact h rfl

/-- The header of a section. -/
lemma says_header {name : List Char} (h : IsBareKey name) :
    Says ('[' :: name ++ [']']) (.table [String.ofList name]) := by
  refine ⟨⟨'[', _, rfl, by decide, by simp⟩, fun rest => ?_⟩
  have hclose := skipBlanks_cons (c := ']') (by decide) ('\n' :: rest)
  have hkeys := keys?_bare h (by decide) hclose (by simp)
  have htext : '[' :: name ++ [']'] ++ '\n' :: rest = '[' :: (name ++ ']' :: '\n' :: rest) := by
    simp
  rw [htext]
  refine statement?_table ?_ hkeys
  obtain ⟨c, tail, rfl, -, hc⟩ := h.begins
  simpa using hc '[' (by simp)

/-- The line of a key. -/
lemma says_pair {key value : List Char} {v : Toml} (h : IsBareKey key)
    (hv : ReadsValue value v) :
    Says (key ++ " = ".toList ++ value) (.pair [String.ofList key] v) := by
  obtain ⟨c, tail, hkey, hspace, hc⟩ := h.begins
  refine ⟨⟨c, tail ++ " = ".toList ++ value, by rw [hkey]; rfl, hspace,
    fun d hd => hc d (by simp_all)⟩, fun rest => ?_⟩
  have htext : key ++ " = ".toList ++ value ++ '\n' :: rest =
      key ++ ' ' :: '=' :: ' ' :: (value ++ '\n' :: rest) := by
    simp
  have hequals : skipBlanks (' ' :: '=' :: ' ' :: (value ++ '\n' :: rest)) =
      '=' :: ' ' :: (value ++ '\n' :: rest) := rfl
  have hvalue : skipBlanks (' ' :: (value ++ '\n' :: rest)) = value ++ '\n' :: rest :=
    hv.begins rest
  have hpair : pair? (value? maxDepth) (key ++ ' ' :: '=' :: ' ' :: (value ++ '\n' :: rest)) =
      some (([String.ofList key], v), '\n' :: rest) := by
    rw [pair?, keys?_bare h (by decide) hequals (by simp)]
    simp [expect?, hvalue, hv.read rest]
  rw [htext]
  refine statement?_pair ?_ hpair
  rw [hkey]
  simpa using hc '[' (by simp)

/-! ### Lines -/

/-- Lines, each with its end, are read as statements. -/
def ReadsLines (cs : List Char) (ss : List Statement) : Prop :=
  ∀ count, cs.length ≤ count → statementsUpTo? count cs = some ss

namespace ReadsLines

variable {ss : List Statement} {s : Statement} {text : List Char}

lemma nil : ReadsLines [] [] := by
  rintro (_ | count) - <;> rfl

/-- A blank line says nothing. -/
lemma blank (h : ReadsLines cs ss) : ReadsLines ('\n' :: cs) ss := by
  intro count hcount
  rw [List.length_cons] at hcount
  obtain ⟨count, rfl⟩ : ∃ n, count = n + 1 := ⟨count - 1, by omega⟩
  rw [statementsUpTo?, lineEnd?_newline]
  exact h count (by omega)

/-- A line in front of others. -/
lemma line (hs : Says text s) (h : ReadsLines cs ss) :
    ReadsLines (text ++ '\n' :: cs) (s :: ss) := by
  intro count hcount
  obtain ⟨⟨c, tail, htext, hspace, hc⟩, hread⟩ := hs
  rw [List.length_append, List.length_cons] at hcount
  obtain ⟨count, rfl⟩ : ∃ n, count = n + 1 := ⟨count - 1, by omega⟩
  have hstatement := hread cs
  have hblanks := skipBlanks_cons hspace (tail ++ '\n' :: cs)
  rw [htext, List.cons_append] at hstatement ⊢
  have hend : lineEnd? (c :: (tail ++ '\n' :: cs)) = none := by
    have hcomment : skipComment (c :: (tail ++ '\n' :: cs)) = c :: (tail ++ '\n' :: cs) := by
      rw [skipComment]
      exact fun _ h => hc '#' (by simp) (List.cons.inj h).1
    rw [lineEnd?, hblanks, hcomment]
    show newline? _ = none
    rw [newline?]
    · exact fun _ h => hc '\n' (by simp) (List.cons.inj h).1
    · exact fun _ h => hc '\r' (by simp) (List.cons.inj h).1
  rw [statementsUpTo?, hend]
  simp [hblanks, hstatement, lineEnd?_newline, h count (by omega)]

/-- All the lines of a document. -/
lemma statements? (h : ReadsLines cs ss) : statements? cs = some ss := h cs.length (Nat.le_refl _)

end ReadsLines

end UsbPipe.Toml
