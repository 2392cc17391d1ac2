/-
A JSON value is read back from its text.

The reader passes over blanks in front of a token, and knows where a token ends from what
follows it: a value is followed by a comma, a closing bracket or brace, a blank or nothing, and
none of these continues a number.  So it is said once how each kind of value is read from the
texts of its parts, with blanks wherever they may stand, and every way to lay out a value as
text is read by that.  The values are those that a text can hold: no surrogate is unpaired, and
numbers are natural.

* `Exact`: the values that a text can hold.
* `Delimits`, `Blank`: what may follow a value, and what may stand between tokens.
* `stringChar?_escaped`, `string?_contents`: characters and strings.
* `number?_decimal`: numbers.
* `Reads`, `ReadsItems`, `ReadsMembers`: texts that are read as a value, as the items of an
  array and as the members of an object, with one lemma for each way to put them together.
* `Exact.reads_compact`: the text without blanks is read as its value.
* `Reads.parseChars?`, `Exact.parse?_compact`: the reader of whole texts.
-/
import Mathlib.Data.List.DropRight
import Mathlib.Tactic.Common
import UsbPipe.Json.Parser

namespace UsbPipe.Json

open Text

/-! ### Values that a text can hold -/

/-- A value whose strings have a text and whose numbers are natural. -/
inductive Exact : Json → Prop
  | null : Exact null
  | bool (value : Bool) : Exact (bool value)
  | nat (value : ℕ) : Exact (nat value)
  | text (s : String) : Exact (text s)
  | arr {items : List Json} (h : ∀ v ∈ items, Exact v) : Exact (arr items)
  | members {ms : List (String × Json)} (h : ∀ m ∈ ms, Exact m.2) : Exact (members ms)

/-! ### Blanks -/

/-- Blanks only. -/
def Blank (ws : List Char) : Prop := ∀ c ∈ ws, isSpace c = true

/-- What may follow a value. -/
def Delimits (rest : List Char) : Prop :=
  ∀ c ∈ rest.head?, c ∈ [',', ']', '\x7d', ' ', '\n', '\t', '\r']

variable {ws rest : List Char}

lemma blank_nil : Blank [] := by
  simp [Blank]

lemma delimits_nil : Delimits [] := by
  simp [Delimits]

lemma delimits_cons {c : Char} (h : c ∈ [',', ']', '\x7d', ' ', '\n', '\t', '\r'])
    (rest : List Char) : Delimits (c :: rest) := by
  simpa [Delimits] using h

/-- Blanks may follow a value. -/
lemma Blank.delimits_append (hws : Blank ws) (hrest : Delimits rest) : Delimits (ws ++ rest) := by
  cases ws with
  | nil => exact hrest
  | cons w ws =>
      have hw := hws w (List.mem_cons_self ..)
      refine delimits_cons ?_ _
      simp only [isSpace, Bool.or_eq_true, beq_iff_eq] at hw
      simp only [List.mem_cons, List.not_mem_nil, or_false]
      tauto

lemma skipSpaces_cons {c : Char} (h : isSpace c = false) (cs : List Char) :
    skipSpaces (c :: cs) = c :: cs :=
  List.dropWhile_cons_of_neg (by simp [h])

lemma skipSpaces_append (hws : Blank ws) (cs : List Char) : skipSpaces (ws ++ cs) = skipSpaces cs :=
  List.dropWhile_append_of_pos hws

@[simp]
lemma skipSpaces_skipSpaces (cs : List Char) : skipSpaces (skipSpaces cs) = skipSpaces cs :=
  List.dropWhile_idempotent isSpace cs

/-! ### Strings -/

/-- The escape of a control character is read as its code. -/
lemma unit?_byteDigits {n : ℕ} (h : n < 256) (more : List Char) :
    unit? ('0' :: '0' :: (byteDigits n.toUInt8 ++ more)) = some (n, more) := by
  have hbyte : n.toUInt8.toNat = n := by simp; omega
  have hhigh := hexValue?_hexDigit ⟨n / 16, by omega⟩
  have hlow := hexValue?_hexDigit ⟨n % 16, by omega⟩
  have hzero : hexValue? '0' = some 0 := by decide
  simp only at hhigh hlow
  simp only [byteDigits, hbyte, List.cons_append, List.nil_append, unit?, hzero, hhigh, hlow,
    Option.bind_eq_bind, Option.bind_some, Option.pure_def, Option.some.injEq, Prod.mk.injEq,
    and_true]
  omega

/-- An escaped character is read back. -/
lemma stringChar?_escaped (c : Char) (more : List Char) :
    stringChar? (escaped c ++ more) = some (some c, more) := by
  rw [escaped]
  split_ifs with hquote hslash hb ht hn hf hr hcontrol
  case pos => subst hquote; rfl
  case pos => subst hslash; rfl
  case pos => subst hb; rfl
  case pos => subst ht; rfl
  case pos => subst hn; rfl
  case pos => subst hf; rfl
  case pos => subst hr; rfl
  case pos =>
    have hunit := unit?_byteDigits (n := c.toNat) (by omega) more
    have hhigh : isHighSurrogate c.toNat = false := by simp [isHighSurrogate]; omega
    have hlow : isLowSurrogate c.toNat = false := by simp [isLowSurrogate]; omega
    show stringChar? ('\\' :: 'u' :: '0' :: '0' :: (byteDigits c.toNat.toUInt8 ++ more)) = _
    rw [stringChar?, hunit]
    simp [hhigh, hlow]
  case neg =>
    rw [List.singleton_append, stringChar?]
    · simp [hcontrol]
    all_goals simp_all

lemma escaped_ne_nil (c : Char) : escaped c ≠ [] := by
  rw [escaped]
  split_ifs <;> simp

/-- The text of a character does not start with a quote. -/
lemma head?_escaped (c : Char) : (escaped c).head? ≠ some '"' := by
  rw [escaped]
  split_ifs <;> simp_all

/-- String contents are read back up to their closing quote. -/
lemma stringTail?_contents (cs : List Char) {fuel : ℕ}
    (hfuel : (cs.flatMap escaped).length < fuel) :
    stringTail? fuel (cs.flatMap escaped ++ '"' :: rest) = some (some cs, rest) := by
  induction cs generalizing fuel with
  | nil =>
      obtain ⟨fuel, rfl⟩ := Nat.exists_eq_add_of_lt hfuel
      rfl
  | cons c cs ih =>
      rw [List.flatMap_cons, List.length_append] at hfuel
      have hpos := List.length_pos_iff.mpr (escaped_ne_nil c)
      obtain ⟨fuel, rfl⟩ : ∃ n, fuel = n + 1 := ⟨fuel - 1, by omega⟩
      rw [List.flatMap_cons, List.append_assoc, stringTail?, stringChar?_escaped]
      · simp [ih (by omega : (cs.flatMap escaped).length < fuel)]
      · -- the text goes on with a character, not with the closing quote
        intro tail htail
        have hhead := head?_escaped c
        cases he : escaped c with
        | nil => exact escaped_ne_nil c he
        | cons x xs =>
            rw [he, List.cons_append, List.cons.injEq] at htail
            rw [he, htail.1] at hhead
            exact hhead rfl

/-- The contents of a string are read back after its opening quote. -/
lemma string?_contents (s : String) (rest : List Char) :
    string? (s.toList.flatMap escaped ++ '"' :: rest) = some (some s, rest) := by
  have hfuel : (s.toList.flatMap escaped).length <
      (s.toList.flatMap escaped ++ '"' :: rest).length + 1 := by
    rw [List.length_append]
    omega
  rw [string?, stringTail?_contents s.toList hfuel]
  simp

/-! ### Numbers -/

lemma takeWhile_append_of_all {α : Type} {p : α → Bool} {xs ys : List α}
    (hxs : ∀ x ∈ xs, p x = true) (hys : ∀ y ∈ ys.head?, p y = false) :
    (xs ++ ys).takeWhile p = xs ∧ (xs ++ ys).dropWhile p = ys := by
  rw [List.takeWhile_append_of_pos hxs, List.dropWhile_append_of_pos hxs]
  cases ys with
  | nil => simp
  | cons y ys => simp [hys y rfl]

/-- A number ends where its digits do. -/
lemma digits?_append {ds : List Char} (hne : ds ≠ []) (hds : ds.all Char.isDigit = true)
    (hrest : ∀ c ∈ rest.head?, c.isDigit = false) :
    digits? (ds ++ rest) = some (ds, rest) := by
  obtain ⟨htake, hdrop⟩ := takeWhile_append_of_all (List.all_eq_true.mp hds) hrest
  rw [digits?, htake, hdrop]
  cases ds with
  | nil => exact absurd rfl hne
  | cons d ds => rfl

/-- The digits of a number are read back as its integer part. -/
lemma wholePart?_decimal (n : ℕ) (hrest : ∀ c ∈ rest.head?, c.isDigit = false) :
    wholePart? (decimal n ++ rest) = some (decimal n, rest) := by
  have hdigits := digits?_append (decimal_ne_nil n) (all_isDigit_decimal n) hrest
  cases hd : decimal n with
  | nil => exact absurd hd (decimal_ne_nil n)
  | cons c cs =>
      rw [hd] at hdigits
      by_cases hzero : c = '0'
      · -- only zero is written with a zero in front
        subst hzero
        have hn := head_decimal n cs hd
        subst hn
        rw [decimal] at hd
        obtain rfl : cs = [] := by simpa [decimalDigit] using hd.symm
        cases rest with
        | nil => rfl
        | cons r rest => simp [wholePart?, hrest r rfl]
      · rw [wholePart?]
        · exact hdigits
        · rintro tail htail
          exact hzero (List.cons.inj htail).1

/-- A number is read back from its digits. -/
lemma number?_decimal (n : ℕ) (h : Delimits rest) :
    number? (decimal n ++ rest) = some (.nat n, rest) := by
  have hrest : ∀ c ∈ rest.head?, c.isDigit = false ∧ c ≠ '.' ∧ ¬(c = 'e' ∨ c = 'E') := by
    intro c hc
    have hmem := h c hc
    simp only [List.mem_cons, List.not_mem_nil, or_false] at hmem
    rcases hmem with rfl | rfl | rfl | rfl | rfl | rfl | rfl <;> decide
  have hwhole := wholePart?_decimal n fun c hc => (hrest c hc).1
  have hfraction : fraction? rest = some ([], rest) := by
    cases rest with
    | nil => rfl
    | cons c rest =>
        rw [fraction?]
        exact fun tail htail => (hrest c rfl).2.1 (List.cons.inj htail).1
  have hexponent : exponent? rest = some ([], rest) := by
    cases rest with
    | nil => rfl
    | cons c rest => simp [exponent?, (hrest c rfl).2.2]
  have hunsigned : unsigned? (decimal n ++ rest) = some (.nat n, rest) := by
    simp [unsigned?, hwhole, hfraction, hexponent, decimalValue_decimal]
  rw [number?]
  · exact hunsigned
  · -- digits have no sign in front
    intro tail htail
    cases hd : decimal n with
    | nil => exact decimal_ne_nil n hd
    | cons c cs =>
        have hdigit := List.all_eq_true.mp (all_isDigit_decimal n) c (by simp [hd])
        rw [hd, List.cons_append, List.cons.injEq] at htail
        rw [htail.1] at hdigit
        exact absurd hdigit (by decide)

/-! ### Values -/

variable {v : Json} {vs : List Json} {ms : List (Option String × Json)} {text more : List Char}

/-- The reader returns a value from a text, whatever may follow it. -/
def Reads (v : Json) (text : List Char) : Prop :=
  ∀ (fuel : ℕ) (rest : List Char), 2 * text.length ≤ fuel → Delimits rest →
    value? fuel (text ++ rest) = some (v, rest)

/-- A text that closes an array is read as its items, whatever follows it. -/
def ReadsItems (vs : List Json) (text : List Char) : Prop :=
  ∀ (fuel : ℕ) (rest : List Char), 2 * text.length ≤ fuel →
    items? fuel (text ++ rest) = some (vs, rest)

/-- A text that closes an object is read as its members, whatever follows it. -/
def ReadsMembers (ms : List (Option String × Json)) (text : List Char) : Prop :=
  ∀ (fuel : ℕ) (rest : List Char), 2 * text.length ≤ fuel →
    members? fuel (text ++ rest) = some (ms, rest)

/-! ### Blanks in front -/

lemma value?_skipSpaces (fuel : ℕ) (cs : List Char) :
    value? fuel (skipSpaces cs) = value? fuel cs := by
  cases fuel with
  | zero => rfl
  | succ fuel => rw [value?, value?, skipSpaces_skipSpaces]

lemma items?_skipSpaces (fuel : ℕ) (cs : List Char) :
    items? fuel (skipSpaces cs) = items? fuel cs := by
  cases fuel with
  | zero => rfl
  | succ fuel => rw [items?, items?, value?_skipSpaces]

lemma members?_skipSpaces (fuel : ℕ) (cs : List Char) :
    members? fuel (skipSpaces cs) = members? fuel cs := by
  cases fuel with
  | zero => rfl
  | succ fuel => rw [members?, members?, skipSpaces_skipSpaces]

/-- Blanks may stand in front of a value. -/
lemma Reads.after (hws : Blank ws) (h : Reads v text) : Reads v (ws ++ text) := by
  intro fuel rest hfuel hrest
  rw [List.length_append] at hfuel
  rw [List.append_assoc, ← value?_skipSpaces, skipSpaces_append hws, value?_skipSpaces]
  exact h fuel rest (by omega) hrest

/-! ### Scalars -/

lemma reads_null : Reads null "null".toList := by
  intro fuel rest hfuel _
  obtain ⟨fuel, rfl⟩ : ∃ n, fuel = n + 1 := ⟨fuel - 1, by simp at hfuel; omega⟩
  rfl

lemma reads_true : Reads (bool true) "true".toList := by
  intro fuel rest hfuel _
  obtain ⟨fuel, rfl⟩ : ∃ n, fuel = n + 1 := ⟨fuel - 1, by simp at hfuel; omega⟩
  rfl

lemma reads_false : Reads (bool false) "false".toList := by
  intro fuel rest hfuel _
  obtain ⟨fuel, rfl⟩ : ∃ n, fuel = n + 1 := ⟨fuel - 1, by simp at hfuel; omega⟩
  rfl

/-- A text is read back as a string. -/
lemma reads_quoted (s : String) : Reads (Json.text s) (quoted s) := by
  intro fuel rest hfuel _
  rw [quoted, List.length_cons] at hfuel
  obtain ⟨fuel, rfl⟩ : ∃ n, fuel = n + 1 := ⟨fuel - 1, by omega⟩
  rw [quoted, List.cons_append, List.append_assoc, List.singleton_append, value?,
    skipSpaces_cons (by decide)]
  simp only [string?_contents]
  rfl

/-- No digit is a blank. -/
lemma isSpace_of_isDigit {c : Char} (h : c.isDigit = true) : isSpace c = false := by
  rw [isSpace]
  by_contra hspace
  simp only [Bool.not_eq_false, Bool.or_eq_true, beq_iff_eq] at hspace
  rcases hspace with ((rfl | rfl) | rfl) | rfl <;> exact absurd h (by decide)

/-- A number is read back as a number. -/
lemma reads_decimal (n : ℕ) : Reads (nat n) (decimal n) := by
  intro fuel rest hfuel hrest
  have hnumber := number?_decimal n hrest
  cases hd : decimal n with
  | nil => exact absurd hd (decimal_ne_nil n)
  | cons c cs =>
      have hdigit := List.all_eq_true.mp (all_isDigit_decimal n) c (by simp [hd])
      rw [hd, List.length_cons] at hfuel
      obtain ⟨fuel, rfl⟩ : ∃ n, fuel = n + 1 := ⟨fuel - 1, by omega⟩
      rw [hd] at hnumber
      rw [List.cons_append, value?, skipSpaces_cons (isSpace_of_isDigit hdigit)]
      -- no other kind of value starts with a digit
      split
      case h_7 => exact hnumber
      all_goals
        rename_i heq
        rw [List.cons.injEq] at heq
        rw [heq.1] at hdigit
        exact absurd hdigit (by decide)

/-! ### Arrays -/

/-- The last item, and the bracket. -/
lemma Reads.last (h : Reads v text) (hws : Blank ws) :
    ReadsItems [v] (text ++ ws ++ [']']) := by
  intro fuel rest hfuel
  rw [List.length_append, List.length_append, List.length_singleton] at hfuel
  obtain ⟨fuel, rfl⟩ : ∃ n, fuel = n + 1 := ⟨fuel - 1, by omega⟩
  have hv := h fuel (ws ++ ']' :: rest) (by omega)
    (hws.delimits_append (delimits_cons (by simp) rest))
  rw [List.append_assoc, List.append_assoc, List.singleton_append, items?, hv]
  simp [skipSpaces_append hws, skipSpaces_cons (show isSpace ']' = false by decide)]

/-- One more item in front. -/
lemma ReadsItems.cons (h : Reads v text) (hvs : ReadsItems vs more) :
    ReadsItems (v :: vs) (text ++ ',' :: more) := by
  intro fuel rest hfuel
  rw [List.length_append, List.length_cons] at hfuel
  obtain ⟨fuel, rfl⟩ : ∃ n, fuel = n + 1 := ⟨fuel - 1, by omega⟩
  have hv := h fuel (',' :: (more ++ rest)) (by omega) (delimits_cons (by simp) _)
  rw [List.append_assoc, List.cons_append, items?, hv]
  simp [skipSpaces_cons (show isSpace ',' = false by decide), hvs fuel rest (by omega)]

/-- No item starts with a closing bracket. -/
lemma items?_close (fuel : ℕ) (cs : List Char) : items? fuel (']' :: cs) = none := by
  match fuel with
  | 0 => rfl
  | 1 => rfl
  | fuel + 2 => rfl

lemma reads_arr_nil : Reads (arr []) ['[', ']'] := by
  intro fuel rest hfuel _
  obtain ⟨fuel, rfl⟩ : ∃ n, fuel = n + 1 := ⟨fuel - 1, by simp at hfuel; omega⟩
  rfl

/-- An array is read from its items. -/
lemma ReadsItems.arr (h : ReadsItems vs text) : Reads (arr vs) ('[' :: text) := by
  intro fuel rest hfuel _
  rw [List.length_cons] at hfuel
  obtain ⟨fuel, rfl⟩ : ∃ n, fuel = n + 1 := ⟨fuel - 1, by omega⟩
  have hitems := h fuel rest (by omega)
  rw [← items?_skipSpaces] at hitems
  rw [List.cons_append, value?, skipSpaces_cons (by decide)]
  simp only
  split
  · rename_i heq
    rw [heq, items?_close] at hitems
    exact absurd hitems (by simp)
  · rw [hitems]
    rfl

/-! ### Objects -/

/-- The members of an object, each with its name. -/
def named (ms : List (String × Json)) : List (Option String × Json) :=
  ms.map fun (name, value) => (some name, value)

/-- The last member, and the brace. -/
lemma Reads.lastMember (name : String) (h : Reads v text) {front back : List Char}
    (hfront : Blank front) (hback : Blank back) :
    ReadsMembers [(some name, v)] (front ++ quoted name ++ ':' :: text ++ back ++ ['\x7d']) := by
  intro fuel rest hfuel
  simp only [List.length_append, List.length_cons] at hfuel
  obtain ⟨fuel, rfl⟩ : ∃ n, fuel = n + 1 := ⟨fuel - 1, by omega⟩
  have hv := h fuel (back ++ '\x7d' :: rest) (by omega)
    (hback.delimits_append (delimits_cons (by simp) rest))
  simp only [quoted, List.append_assoc, List.cons_append, List.nil_append, members?,
    skipSpaces_append hfront, skipSpaces_cons (show isSpace '"' = false by decide),
    string?_contents, skipSpaces_cons (show isSpace ':' = false by decide), hv,
    skipSpaces_append hback, skipSpaces_cons (show isSpace '\x7d' = false by decide),
    Option.bind_eq_bind, Option.bind_some]
  rfl

/-- One more member in front. -/
lemma ReadsMembers.cons (name : String) (h : Reads v text) (hms : ReadsMembers ms more)
    (hws : Blank ws) :
    ReadsMembers ((some name, v) :: ms) (ws ++ quoted name ++ ':' :: text ++ ',' :: more) := by
  intro fuel rest hfuel
  simp only [List.length_append, List.length_cons] at hfuel
  obtain ⟨fuel, rfl⟩ : ∃ n, fuel = n + 1 := ⟨fuel - 1, by omega⟩
  have hv := h fuel (',' :: (more ++ rest)) (by omega) (delimits_cons (by simp) _)
  simp only [quoted, List.append_assoc, List.cons_append, List.nil_append, members?,
    skipSpaces_append hws, skipSpaces_cons (show isSpace '"' = false by decide),
    string?_contents, skipSpaces_cons (show isSpace ':' = false by decide), hv,
    skipSpaces_cons (show isSpace ',' = false by decide), hms fuel rest (by omega),
    Option.bind_eq_bind, Option.bind_some]
  rfl

/-- No member starts with a closing brace. -/
lemma members?_close (fuel : ℕ) (cs : List Char) : members? fuel ('\x7d' :: cs) = none := by
  cases fuel <;> rfl

lemma reads_obj_nil : Reads (obj []) ['\x7b', '\x7d'] := by
  intro fuel rest hfuel _
  obtain ⟨fuel, rfl⟩ : ∃ n, fuel = n + 1 := ⟨fuel - 1, by simp at hfuel; omega⟩
  rfl

/-- An object is read from its members. -/
lemma ReadsMembers.obj (h : ReadsMembers ms text) : Reads (obj ms) ('\x7b' :: text) := by
  intro fuel rest hfuel _
  rw [List.length_cons] at hfuel
  obtain ⟨fuel, rfl⟩ : ∃ n, fuel = n + 1 := ⟨fuel - 1, by omega⟩
  have hmembers := h fuel rest (by omega)
  rw [← members?_skipSpaces] at hmembers
  rw [List.cons_append, value?, skipSpaces_cons (by decide)]
  simp only
  split
  · rename_i heq
    rw [heq, members?_close] at hmembers
    exact absurd hmembers (by simp)
  · rw [hmembers]
    rfl

/-! ### Text without blanks -/

lemma readsItems_compact (hread : ∀ w ∈ v :: vs, Reads w w.compact) :
    ReadsItems (v :: vs) (compactItems (v :: vs)) := by
  induction vs generalizing v with
  | nil =>
      rw [compactItems, ← List.append_nil v.compact]
      exact (hread v (List.mem_singleton_self v)).last blank_nil
  | cons w vs ih =>
      rw [compactItems]
      exact .cons (hread v (List.mem_cons_self ..))
        (ih fun x hx => hread x (List.mem_cons_of_mem _ hx))

lemma readsMembers_compact {m : String × Json} {ms : List (String × Json)}
    (hread : ∀ n ∈ m :: ms, Reads n.2 n.2.compact) :
    ReadsMembers (named (m :: ms)) (compactMembers (named (m :: ms))) := by
  induction ms generalizing m with
  | nil =>
      have hm := (hread m (List.mem_singleton_self m)).lastMember m.1 blank_nil blank_nil
      simpa [named, compactMembers, quoted?] using hm
  | cons n ms ih =>
      have hms := ih fun x hx => hread x (List.mem_cons_of_mem _ hx)
      have hm := hms.cons m.1 (hread m (List.mem_cons_self ..)) blank_nil
      simpa [named, compactMembers, quoted?] using hm

/-- Every value that a text can hold is read back from its text without blanks. -/
theorem Exact.reads_compact (h : v.Exact) : Reads v v.compact := by
  induction h with
  | null => simpa [compact] using reads_null
  | bool value =>
      cases value with
      | true => simpa [compact] using reads_true
      | false => simpa [compact] using reads_false
  | nat n => simpa [compact] using reads_decimal n
  | text s => simpa [Json.text, compact, quoted?] using reads_quoted s
  | @arr items _ ih =>
      cases items with
      | nil => simpa [compact, compactItems] using reads_arr_nil
      | cons v vs => simpa [compact] using (readsItems_compact ih).arr
  | @members ms _ ih =>
      cases ms with
      | nil => simpa [Json.members, compact, compactMembers] using reads_obj_nil
      | cons m ms => simpa [Json.members, compact, named] using (readsMembers_compact ih).obj

/-! ### Whole texts -/

/-- A text is read as its value, with blanks after it. -/
theorem Reads.parseChars? (h : Reads v text) (hws : Blank ws) :
    parseChars? (text ++ ws) = some v := by
  have hdelimits : Delimits ws := by
    simpa using hws.delimits_append delimits_nil
  have hspaces : skipSpaces ws = [] := by
    simpa [skipSpaces] using skipSpaces_append hws []
  have hvalue := h (2 * (text ++ ws).length + 2) ws (by simp; omega) hdelimits
  rw [Json.parseChars?, hvalue]
  simp [hspaces]

/-- A value is the value of its text without blanks. -/
theorem Exact.parse?_compact (h : v.Exact) : parse? (String.ofList v.compact) = some v := by
  rw [parse?, String.toList_ofList, ← List.append_nil v.compact]
  exact h.reads_compact.parseChars? blank_nil

end UsbPipe.Json
