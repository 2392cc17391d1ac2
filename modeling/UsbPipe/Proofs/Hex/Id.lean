/-
What a text is read as when it should write an id.

An id is a marker and one to four digits.  The length of what follows the marker is counted in
bytes, and the rest is left to the reader of numbers, which takes a plus sign in front of the
digits, so a sign and up to three digits are read as an id too.  No other text is.

* `Denotes`: digits and the number that they write, the most significant digit first.
* `digitsValue?_eq_some_iff`, `number?_eq_some_iff`: the numbers that are read.
* `WritesId`, `WritesSignedId`, `SpellsId`: an id, an id with a sign, and either.
* `parseId_eq_ok_iff`: the texts that are read as an id; `writesId_iff`: an id without a sign.
-/
import Mathlib.Data.List.Forall2
import Mathlib.Data.Nat.Digits.Defs
import UsbPipe.Proofs.Hex.Payload

namespace UsbPipe

namespace Text

/-- A digit takes one byte. -/
lemma Digit.utf8Size {c : Char} {value : ℕ} (h : Digit c value) : c.utf8Size = 1 := by
  have hall : ∀ p ∈ digitTable, p.1.utf8Size = 1 := by decide
  exact hall (c, value) h

end Text

namespace Hex

open Text

/-! ### Numbers -/

/-- Digits and the number that they write, the most significant digit first. -/
def Denotes (digits : List Char) (n : ℕ) : Prop :=
  ∃ values, List.Forall₂ Digit digits values ∧ n = Nat.ofDigits 16 values.reverse

lemma denotes_nil {n : ℕ} : Denotes [] n ↔ n = 0 := by
  simp [Denotes]

/-- The first digit counts as many places up as there are digits behind it. -/
lemma denotes_cons {c : Char} {digits : List Char} {n : ℕ} :
    Denotes (c :: digits) n ↔
      ∃ value m, Digit c value ∧ Denotes digits m ∧ n = 16 ^ digits.length * value + m := by
  have hsum : ∀ {value : ℕ} {values : List ℕ}, List.Forall₂ Digit digits values →
      Nat.ofDigits 16 (value :: values).reverse =
        16 ^ digits.length * value + Nat.ofDigits 16 values.reverse := by
    intro value values hvalues
    rw [List.reverse_cons, Nat.ofDigits_append, List.length_reverse, ← hvalues.length_eq,
      Nat.ofDigits_singleton, Nat.add_comm]
  constructor
  · rintro ⟨_, _ | ⟨hc, hvalues⟩, rfl⟩
    exact ⟨_, _, hc, ⟨_, hvalues, rfl⟩, hsum hvalues⟩
  · rintro ⟨value, _, hc, ⟨values, hvalues, rfl⟩, rfl⟩
    exact ⟨value :: values, .cons hc hvalues, (hsum hvalues).symm⟩

/-- Digits that are read behind others move those up. -/
lemma digitsValue?_eq_some_iff {digits : List Char} {acc n : ℕ} :
    digitsValue? acc digits = some n ↔
      ∃ m, Denotes digits m ∧ n = 16 ^ digits.length * acc + m := by
  induction digits generalizing acc with
  | nil => simp [digitsValue?, denotes_nil, eq_comm]
  | cons c digits ih =>
      have hpow : ∀ value, 16 ^ digits.length * (16 * acc + value) =
          16 ^ (c :: digits).length * acc + 16 ^ digits.length * value := by
        intro value
        rw [List.length_cons, Nat.pow_succ, Nat.mul_add, Nat.mul_assoc]
      constructor
      · intro h
        obtain ⟨value, hvalue, hrest⟩ := Option.bind_eq_some_iff.mp h
        obtain ⟨m, hm, rfl⟩ := ih.mp hrest
        exact ⟨_, denotes_cons.mpr ⟨value, m, hexValue?_eq_some_iff.mp hvalue, hm, rfl⟩, by
          rw [hpow, Nat.add_assoc]⟩
      · rintro ⟨_, h, rfl⟩
        obtain ⟨value, m, hc, hm, rfl⟩ := denotes_cons.mp h
        refine Option.bind_eq_some_iff.mpr ⟨value, hexValue?_eq_some_iff.mpr hc, ?_⟩
        exact ih.mpr ⟨m, hm, by rw [hpow, Nat.add_assoc]⟩

/-- The number of a run of digits is the one that it writes. -/
lemma digitsValue?_zero {digits : List Char} {n : ℕ} :
    digitsValue? 0 digits = some n ↔ Denotes digits n := by
  simp [digitsValue?_eq_some_iff]

/-- Digits have no plus sign among them, and take one byte each. -/
lemma Denotes.ascii {digits : List Char} {n : ℕ} (h : Denotes digits n) :
    '+' ∉ digits ∧ utf8Size digits = digits.length := by
  obtain ⟨values, hvalues, -⟩ := h
  induction hvalues with
  | nil => exact ⟨List.not_mem_nil, rfl⟩
  | @cons c value digits values hc _ ih =>
      rw [List.mem_cons, not_or, utf8Size_cons, hc.utf8Size, ih.2, List.length_cons]
      exact ⟨⟨hc.ne_plus.symm, ih.1⟩, Nat.add_comm ..⟩

/-- Digits write a number below the power for their length. -/
lemma Denotes.lt {digits : List Char} {n : ℕ} (h : Denotes digits n) :
    n < 16 ^ digits.length := by
  induction digits generalizing n with
  | nil => simp [denotes_nil.mp h]
  | cons c digits ih =>
      obtain ⟨value, m, hc, hm, rfl⟩ := denotes_cons.mp h
      calc 16 ^ digits.length * value + m
          < 16 ^ digits.length * value + 16 ^ digits.length := Nat.add_lt_add_left (ih hm) _
        _ = 16 ^ digits.length * (value + 1) := by rw [Nat.mul_add, Nat.mul_one]
        _ ≤ 16 ^ digits.length * 16 := Nat.mul_le_mul_left _ hc.lt
        _ = 16 ^ (c :: digits).length := by rw [List.length_cons, Nat.pow_succ]

/-- A number is digits, with a plus sign in front or without. -/
lemma number?_eq_some_iff {cs : List Char} {n : ℕ} :
    number? cs = some n ↔
      (cs ≠ [] ∧ Denotes cs n) ∨ ∃ digits, digits ≠ [] ∧ cs = '+' :: digits ∧ Denotes digits n := by
  have hplus : ∀ digits, ¬ Denotes ('+' :: digits) n := fun digits h =>
    h.ascii.1 (List.mem_cons_self ..)
  fun_cases number? cs with
  | case1 => simp
  | case2 => simp [hplus]
  | case3 c cs => simp [hplus, digitsValue?_zero]
  | case4 c cs hsign hdigits =>
      have hne : c ≠ '+' := by
        rintro rfl
        cases cs with
        | nil => exact hsign rfl rfl
        | cons d cs => exact hdigits d cs rfl rfl
      simp [digitsValue?_zero, hne]

/-! ### Ids -/

/-- A text that writes an id: a marker and one to four digits. -/
def WritesId (text : List Char) (id : UInt16) : Prop :=
  ∃ x digits, (x = 'x' ∨ x = 'X') ∧ text = '0' :: x :: digits ∧
    1 ≤ digits.length ∧ digits.length ≤ 4 ∧ Denotes digits id.toNat

/-- A text that is read as an id because its digits have a plus sign in front, which counts as one
of the four. -/
def WritesSignedId (text : List Char) (id : UInt16) : Prop :=
  ∃ x digits, (x = 'x' ∨ x = 'X') ∧ text = '0' :: x :: '+' :: digits ∧
    1 ≤ digits.length ∧ digits.length ≤ 3 ∧ Denotes digits id.toNat

/-- A text that is read as an id. -/
def SpellsId (text : List Char) (id : UInt16) : Prop := WritesId text id ∨ WritesSignedId text id

lemma afterMarker?_eq_some_iff {cs rest : List Char} :
    afterMarker? cs = some rest ↔ ∃ x, (x = 'x' ∨ x = 'X') ∧ cs = '0' :: x :: rest := by
  fun_cases afterMarker? cs with
  | case1 tail => simp [eq_comm]
  | case2 tail => simp [eq_comm]
  | case3 cs hsmall hlarge =>
      simp only [reduceCtorEq, false_iff]
      rintro ⟨x, rfl | rfl, rfl⟩
      · exact hsmall rest rfl
      · exact hlarge rest rfl

/-- An id is what the number behind the marker is as a word, if the number takes one to four
bytes. -/
lemma id?_eq_ok_iff {cs : List Char} {id : UInt16} :
    id? cs = .ok id ↔ ∃ x rest n, (x = 'x' ∨ x = 'X') ∧ cs = '0' :: x :: rest ∧
      1 ≤ utf8Size rest ∧ utf8Size rest ≤ 4 ∧ number? rest = some n ∧ n.toUInt16 = id := by
  constructor
  · intro h
    rw [id?] at h
    cases hmarker : afterMarker? cs with
    | none => rw [hmarker] at h; cases h
    | some rest =>
        simp only [hmarker] at h
        split_ifs at h with hsize
        cases hn : number? rest with
        | none => rw [hn] at h; cases h
        | some n =>
            rw [hn] at h
            obtain ⟨x, hx, hcs⟩ := afterMarker?_eq_some_iff.mp hmarker
            exact ⟨x, rest, n, hx, hcs, by omega, by omega, hn, Except.ok.inj h⟩
  · rintro ⟨x, rest, n, hx, hcs, hone, hfour, hn, rfl⟩
    rw [id?, afterMarker?_eq_some_iff.mpr ⟨x, hx, hcs⟩]
    simp only [hn]
    exact if_neg (by omega)

/-- The number of at most four digits is that of its word. -/
lemma Denotes.toUInt16 {digits : List Char} {n : ℕ} (h : Denotes digits n)
    (hlength : digits.length ≤ 4) : n.toUInt16.toNat = n := by
  have hlt : n < 2 ^ 16 :=
    calc n < 16 ^ digits.length := h.lt
      _ ≤ 16 ^ 4 := Nat.pow_le_pow_right (by decide) hlength
      _ = 2 ^ 16 := by decide
  exact UInt16.toNat_ofNat_of_lt' hlt

/-- A text is read as an id if it is a marker and digits, or a marker, a plus sign and digits. -/
lemma parseId_eq_ok_iff {text : String} {id : UInt16} :
    parseId text = .ok id ↔ SpellsId text.toList id := by
  have hok : parseId text = .ok id ↔ id? text.toList = .ok id := by
    rw [parseId]
    cases id? text.toList <;> simp [Except.mapError]
  have hsize : ∀ {digits n}, Denotes digits n → utf8Size ('+' :: digits) = 1 + digits.length := by
    intro digits n h
    rw [utf8Size_cons, h.ascii.2, show '+'.utf8Size = 1 by decide]
  rw [hok, id?_eq_ok_iff]
  constructor
  · rintro ⟨x, rest, n, hx, htext, hone, hfour, hn, rfl⟩
    rcases number?_eq_some_iff.mp hn with ⟨-, hdenotes⟩ | ⟨digits, hne, rfl, hdenotes⟩
    · rw [hdenotes.ascii.2] at hone hfour
      refine Or.inl ⟨x, rest, hx, htext, hone, hfour, ?_⟩
      rwa [hdenotes.toUInt16 hfour]
    · rw [hsize hdenotes] at hfour
      refine Or.inr ⟨x, digits, hx, htext, List.length_pos_iff.mpr hne, by omega, ?_⟩
      rwa [hdenotes.toUInt16 (by omega)]
  · rintro (⟨x, digits, hx, htext, hone, hfour, hdenotes⟩ |
      ⟨x, digits, hx, htext, hone, hthree, hdenotes⟩)
    · have hn := number?_eq_some_iff.mpr (Or.inl ⟨List.length_pos_iff.mp hone, hdenotes⟩)
      rw [← hdenotes.ascii.2] at hone hfour
      exact ⟨x, digits, _, hx, htext, hone, hfour, hn, UInt16.ofNat_toNat⟩
    · have hn := number?_eq_some_iff.mpr
        (Or.inr ⟨digits, List.length_pos_iff.mp hone, rfl, hdenotes⟩)
      refine ⟨x, '+' :: digits, _, hx, htext, ?_, ?_, hn, UInt16.ofNat_toNat⟩
      · rw [hsize hdenotes]; omega
      · rw [hsize hdenotes]; omega

/-- An id is a text that is read as one, and has no plus sign. -/
lemma writesId_iff {text : String} {id : UInt16} :
    WritesId text.toList id ↔ parseId text = .ok id ∧ '+' ∉ text.toList := by
  constructor
  · intro h
    refine ⟨parseId_eq_ok_iff.mpr (Or.inl h), ?_⟩
    obtain ⟨x, digits, hx, htext, -, -, hdenotes⟩ := h
    rw [htext]
    rcases hx with rfl | rfl <;> simp [hdenotes.ascii.1]
  · rintro ⟨hok, hplus⟩
    refine (parseId_eq_ok_iff.mp hok).resolve_right ?_
    rintro ⟨x, digits, -, htext, -⟩
    exact hplus (by simp [htext])

end Hex

end UsbPipe
