/-
What a text is read as when it should write a payload.

The payload of a text is what is left of it without the blanks at its ends, one marker in
front, and the blanks and colons in between.  It is read pair by pair.  A pair that is a number
is two digits, or a plus sign and one digit, so that a text is read although it holds more than
digits; every text without a plus sign that is read holds digits only.

* `Digit`: a digit and its value; `hexValue?_eq_some_iff`.
* `Trimmed`, `Unmarked`, `Payload`: a text without blanks at its ends, one without a marker, and
  the payload of a text; `payload_iff` says that this is what `payloadDigits` computes.
* `TwoDigits`, `Spells`, `Writes`: pairs that are bytes, and characters that write bytes.
* `Refuses`: characters that write none, with what is wrong with them.
* `parseBytes_spelled`: the texts that are read, with their bytes, and the others.
* `parseBytes_sign`: a text that is read although it is not of digits.
-/
import Mathlib.Data.List.DropRight
import Mathlib.Data.List.TakeWhile
import UsbPipe.Hex

namespace UsbPipe

namespace Text

/-! ### Digits -/

/-- The hexadecimal digits and their values. -/
def digitTable : List (Char × Nat) :=
  ['0', '1', '2', '3', '4', '5', '6', '7', '8', '9', 'a', 'b', 'c', 'd', 'e', 'f'].zipIdx ++
    ['A', 'B', 'C', 'D', 'E', 'F'].zipIdx 10

/-- A hexadecimal digit and its value. -/
def Digit (c : Char) (value : Nat) : Prop := (c, value) ∈ digitTable

instance (c : Char) (value : Nat) : Decidable (Digit c value) :=
  inferInstanceAs (Decidable (_ ∈ _))

/-- Characters from one on, as many as there are digits in a row of the table. -/
lemma digit_of_range {c first last : Char} {base : Nat} (hlow : first ≤ c) (hhigh : c ≤ last)
    (hrow : ∀ n < last.toNat - first.toNat + 1,
      Digit (Char.ofNat (first.toNat + n)) (first.toNat + n - base)) :
    Digit c (c.toNat - base) := by
  have hlow' : first.toNat ≤ c.toNat := Char.le_def.mp hlow
  have hhigh' : c.toNat ≤ last.toNat := Char.le_def.mp hhigh
  have hc := hrow (c.toNat - first.toNat) (by omega)
  rwa [Nat.add_sub_cancel' hlow', Char.ofNat_toNat] at hc

/-- The value of a digit is that of the table, and what is not in the table has none. -/
lemma hexValue?_eq_some_iff {c : Char} {value : Nat} :
    hexValue? c = some value ↔ Digit c value := by
  constructor
  · intro h
    rw [hexValue?] at h
    split_ifs at h with hdecimal hsmall hlarge
    · exact Option.some.inj h ▸ digit_of_range hdecimal.1 hdecimal.2 (by decide)
    · exact Option.some.inj h ▸ digit_of_range hsmall.1 hsmall.2 (by decide)
    · exact Option.some.inj h ▸ digit_of_range hlarge.1 hlarge.2 (by decide)
  · have hall : ∀ p ∈ digitTable, hexValue? p.1 = some p.2 := by decide
    exact hall (c, value)

/-- A digit has a value below sixteen. -/
lemma Digit.lt {c : Char} {value : Nat} (h : Digit c value) : value < 16 := by
  have hall : ∀ p ∈ digitTable, p.2 < 16 := by decide
  exact hall (c, value) h

/-- A plus sign is no digit. -/
lemma Digit.ne_plus {c : Char} {value : Nat} (h : Digit c value) : c ≠ '+' := by
  have hall : ∀ p ∈ digitTable, p.1 ≠ '+' := by decide
  exact hall (c, value) h

/-! ### Blanks at the ends -/

/-- The text `core` is `cs` without the blanks at its ends. -/
def Trimmed (cs core : List Char) : Prop :=
  ∃ front back, cs = front ++ core ++ back ∧ (∀ c ∈ front, isBlank c = true) ∧
    (∀ c ∈ back, isBlank c = true) ∧ (∀ c ∈ core.head?, isBlank c = false) ∧
    ∀ c ∈ core.getLast?, isBlank c = false

/-- Blanks in front of a text that begins with none. -/
lemma dropWhile_isBlank {front cs : List Char} (hfront : ∀ c ∈ front, isBlank c = true)
    (hhead : ∀ c ∈ cs.head?, isBlank c = false) : (front ++ cs).dropWhile isBlank = cs := by
  rw [List.dropWhile_append_of_pos hfront]
  cases cs with
  | nil => rfl
  | cons c cs => exact List.dropWhile_cons_of_neg (by simp [hhead c rfl])

/-- Blanks behind a text that ends with none. -/
lemma rdropWhile_isBlank {cs back : List Char} (hback : ∀ c ∈ back, isBlank c = true)
    (hlast : ∀ c ∈ cs.getLast?, isBlank c = false) : (cs ++ back).rdropWhile isBlank = cs := by
  have hback' : ∀ c ∈ back.reverse, isBlank c = true := fun c hc =>
    hback c (List.mem_reverse.mp hc)
  rw [List.rdropWhile, List.reverse_append,
    dropWhile_isBlank hback' (by rwa [List.head?_reverse]), List.reverse_reverse]

/-- Trimming takes the blanks off both ends, and nothing else. -/
lemma trimmed_iff {cs core : List Char} : Trimmed cs core ↔ core = trimBlanks cs := by
  have htrim : trimBlanks cs = (cs.dropWhile isBlank).rdropWhile isBlank := rfl
  constructor
  · rintro ⟨front, back, rfl, hfront, hback, hhead, hlast⟩
    rw [htrim]
    cases core with
    | nil =>
        -- all of the text is blank
        have hall : ∀ c ∈ front ++ [] ++ back, isBlank c = true := by
          simpa [or_imp, forall_and] using And.intro hfront hback
        rw [List.dropWhile_eq_nil_iff.mpr hall, List.rdropWhile_nil]
    | cons c core =>
        rw [List.append_assoc, dropWhile_isBlank hfront (by simpa using hhead),
          rdropWhile_isBlank hback hlast]
  · rintro rfl
    set rest := cs.dropWhile isBlank with hrest
    refine ⟨cs.takeWhile isBlank, rest.rtakeWhile isBlank, ?_, fun c => List.mem_takeWhile_imp,
      fun c => List.mem_rtakeWhile_imp, fun c hc => ?_, fun c hc => ?_⟩
    · rw [htrim, List.append_assoc, List.rdropWhile_append_rtakeWhile,
        List.takeWhile_append_dropWhile]
    · obtain ⟨tail, htail⟩ := List.rdropWhile_prefix isBlank rest
      have hfirst := List.head?_dropWhile_not isBlank cs
      rw [← hrest, ← htail, List.head?_append, ← htrim, Option.mem_def.mp hc] at hfirst
      simpa using hfirst
    · obtain ⟨hne, rfl⟩ := List.mem_getLast?_eq_getLast hc
      have hnot : ¬ isBlank ((trimBlanks cs).getLast hne) = true :=
        List.rdropWhile_last_not isBlank rest hne
      exact Bool.eq_false_iff.mpr hnot

end Text

namespace Hex

open Text

/-! ### The payload of a text -/

/-- The text `rest` is `core` without a marker in front, if there is one. -/
def Unmarked (core rest : List Char) : Prop :=
  (∃ x, (x = 'x' ∨ x = 'X') ∧ core = '0' :: x :: rest) ∨
    (rest = core ∧ ∀ x tail, x = 'x' ∨ x = 'X' → core ≠ '0' :: x :: tail)

/-- The payload of a text: without the blanks at its ends, then without a marker, and then
without blanks and colons anywhere. -/
def Payload (cs body : List Char) : Prop :=
  ∃ core rest, Trimmed cs core ∧ Unmarked core rest ∧
    body = rest.filter fun c => !isBlank c && c != ':'

lemma unmarked_iff {core rest : List Char} :
    Unmarked core rest ↔ rest = (afterMarker? core).getD core := by
  rw [Unmarked]
  fun_cases afterMarker? core with
  | case1 tail => simp [eq_comm]
  | case2 tail => simp [eq_comm]
  | case3 core hsmall hlarge =>
      simp only [Option.getD_none]
      constructor
      · rintro (⟨x, rfl | rfl, rfl⟩ | ⟨h, -⟩)
        · exact absurd rfl (hsmall rest)
        · exact absurd rfl (hlarge rest)
        · exact h
      · rintro rfl
        refine Or.inr ⟨rfl, ?_⟩
        rintro x tail (rfl | rfl)
        · exact hsmall tail
        · exact hlarge tail

/-- The digits that are read are those of the payload. -/
lemma payload_iff {cs body : List Char} : Payload cs body ↔ body = payloadDigits cs := by
  simp only [Payload, trimmed_iff, unmarked_iff, exists_and_left, exists_eq_left]
  rfl

/-! ### Pairs -/

/-- Two digits and the byte that they write. -/
def TwoDigits (a b : Char) (byte : UInt8) : Prop :=
  ∃ high low, Digit a high ∧ Digit b low ∧ byte.toNat = 16 * high + low

/-- A plus sign and a digit, and the byte that is read for them. -/
def Signed (a b : Char) (byte : UInt8) : Prop := a = '+' ∧ Digit b byte.toNat

/-- A pair that is read as a byte. -/
def Spells (a b : Char) (byte : UInt8) : Prop := TwoDigits a b byte ∨ Signed a b byte

/-- Characters that write bytes, pair by pair, each pair as `pair` says. -/
inductive Writes (pair : Char → Char → UInt8 → Prop) : List Char → List UInt8 → Prop where
  | nil : Writes pair [] []
  | cons {a b : Char} {byte : UInt8} {cs : List Char} {bytes : List UInt8}
      (first : pair a b byte) (rest : Writes pair cs bytes) :
      Writes pair (a :: b :: cs) (byte :: bytes)

/-- Characters that write no bytes, and what is wrong with them: there is an odd number of
them, or else the first pair that is no byte. -/
inductive Refuses : List Char → Fault → Prop where
  | odd {cs : List Char} (h : cs.length % 2 = 1) : Refuses cs .oddDigits
  | pair {front rest : List Char} {bytes : List UInt8} {a b : Char}
      (hfront : Writes Spells front bytes) (hpair : ∀ byte, ¬ Spells a b byte)
      (hrest : rest.length % 2 = 0) :
      Refuses (front ++ a :: b :: rest) (.notByte [a, b])

/-- The characters that write bytes are twice as many. -/
lemma Writes.length {pair : Char → Char → UInt8 → Prop} {cs : List Char} {bytes : List UInt8}
    (h : Writes pair cs bytes) : cs.length = 2 * bytes.length := by
  induction h with
  | nil => rfl
  | cons _ _ ih => simp [ih]; omega

/-- A number that fits is the value of its byte. -/
lemma toNat_toUInt8 {n : Nat} (h : n < 256) : n.toUInt8.toNat = n := UInt8.toNat_ofNat_of_lt' h

lemma digitsValue?_pair (a b : Char) : digitsValue? 0 [a, b] =
    (hexValue? a).bind fun high => (hexValue? b).map fun low => 16 * high + low := by
  simp only [digitsValue?, Nat.mul_zero, Nat.zero_add]
  cases hexValue? a <;> cases hexValue? b <;> rfl

/-- A pair is read as a number if it is read as a byte, which has that value. -/
lemma number?_pair {a b : Char} {n : Nat} :
    number? [a, b] = some n ↔ ∃ byte : UInt8, byte.toNat = n ∧ Spells a b byte := by
  by_cases ha : a = '+'
  · subst ha
    have hsign : number? ['+', b] = hexValue? b := by
      rw [number?]
      cases h : hexValue? b <;> simp [digitsValue?, h]
    rw [hsign, hexValue?_eq_some_iff]
    constructor
    · intro hb
      have hn : n.toUInt8.toNat = n := toNat_toUInt8 (by have := hb.lt; omega)
      exact ⟨n.toUInt8, hn, Or.inr ⟨rfl, hn.symm ▸ hb⟩⟩
    · rintro ⟨byte, rfl, ⟨high, low, hhigh, -⟩ | ⟨-, hb⟩⟩
      · exact absurd rfl hhigh.ne_plus
      · exact hb
  · have hplain : number? [a, b] = digitsValue? 0 [a, b] := by
      rw [number?]
      all_goals simp [ha]
    rw [hplain, digitsValue?_pair]
    constructor
    · intro h
      obtain ⟨high, hhigh, h⟩ := Option.bind_eq_some_iff.mp h
      obtain ⟨low, hlow, rfl⟩ := Option.map_eq_some_iff.mp h
      rw [hexValue?_eq_some_iff] at hhigh hlow
      have hn : (16 * high + low).toUInt8.toNat = 16 * high + low :=
        toNat_toUInt8 (by have := hhigh.lt; have := hlow.lt; omega)
      exact ⟨_, hn, Or.inl ⟨high, low, hhigh, hlow, hn⟩⟩
    · rintro ⟨byte, rfl, ⟨high, low, hhigh, hlow, hbyte⟩ | ⟨hsign, -⟩⟩
      · rw [hexValue?_eq_some_iff.mpr hhigh, hexValue?_eq_some_iff.mpr hlow, hbyte]
        rfl
      · exact absurd hsign ha

/-- Two digits are no plus sign. -/
lemma TwoDigits.ne_plus {a b : Char} {byte : UInt8} (h : TwoDigits a b byte) :
    a ≠ '+' ∧ b ≠ '+' := by
  obtain ⟨high, low, hhigh, hlow, -⟩ := h
  exact ⟨hhigh.ne_plus, hlow.ne_plus⟩

/-- Digits write bytes if the characters are read, and no sign is among them. -/
lemma writes_twoDigits_iff {cs : List Char} {bytes : List UInt8} :
    Writes TwoDigits cs bytes ↔ Writes Spells cs bytes ∧ '+' ∉ cs := by
  constructor
  · intro h
    induction h with
    | nil => exact ⟨.nil, by simp⟩
    | cons first _ ih =>
        obtain ⟨ha, hb⟩ := first.ne_plus
        exact ⟨.cons (Or.inl first) ih.1, by simp [ha.symm, hb.symm, ih.2]⟩
  · rintro ⟨h, hplus⟩
    induction h with
    | nil => exact .nil
    | cons first _ ih =>
        simp only [List.mem_cons, not_or] at hplus
        exact .cons (first.resolve_right fun hs => hplus.1 hs.1.symm) (ih hplus.2.2)

/-! ### Texts -/

/-- Characters are read as the bytes that they write. -/
lemma pairs?_eq_ok_iff {cs : List Char} {bytes : List UInt8} :
    pairs? cs = .ok bytes ↔ Writes Spells cs bytes := by
  constructor
  · intro h
    fun_induction pairs? cs generalizing bytes with
    | case1 => cases h; exact .nil
    | case2 => cases h
    | case3 => cases h
    | case4 a b rest n hn ih =>
        obtain ⟨byte, hbyte, hspells⟩ := number?_pair.mp hn
        cases hr : pairs? rest with
        | error f => rw [hr] at h; cases h
        | ok bytes' =>
            rw [hr] at h
            cases h
            rw [← hbyte, Nat.toUInt8, UInt8.ofNat_toNat]
            exact .cons hspells (ih hr)
  · intro h
    induction h with
    | nil => rfl
    | @cons a b byte cs bytes first _ ih =>
        rw [pairs?, number?_pair.mpr ⟨byte, rfl, first⟩]
        simp [ih, Except.map]

/-- An even number of characters is refused for the first pair that is no byte. -/
lemma pairs?_eq_error_iff {cs : List Char} {f : Fault} (heven : cs.length % 2 = 0) :
    pairs? cs = .error f ↔ Refuses cs f := by
  constructor
  · intro h
    fun_induction pairs? cs with
    | case1 => cases h
    | case2 => simp at heven
    | case3 a b rest hn =>
        cases h
        have hrest : rest.length % 2 = 0 := by simp only [List.length_cons] at heven; omega
        have hpair : ∀ byte, ¬ Spells a b byte := by
          intro byte hbyte
          rw [number?_pair.mpr ⟨byte, rfl, hbyte⟩] at hn
          cases hn
        have hfirst : Refuses ([] ++ a :: b :: rest) (.notByte [a, b]) := .pair .nil hpair hrest
        exact hfirst
    | case4 a b rest n hn ih =>
        have hrest : rest.length % 2 = 0 := by simp only [List.length_cons] at heven; omega
        obtain ⟨byte, -, hspells⟩ := number?_pair.mp hn
        cases hr : pairs? rest with
        | ok bytes' => rw [hr] at h; cases h
        | error f' =>
            rw [hr] at h
            cases h
            cases ih hrest hr with
            | odd hodd => omega
            | pair hfront hpair hback =>
                have hlater := Refuses.pair (.cons hspells hfront) hpair hback
                exact hlater
  · intro h
    cases h with
    | odd hodd => omega
    | @pair front rest bytes a b hfront hpair =>
        have hnone : number? [a, b] = none := by
          rw [Option.eq_none_iff_forall_ne_some]
          intro n hn
          obtain ⟨byte, -, hbyte⟩ := number?_pair.mp hn
          exact hpair byte hbyte
        clear heven
        induction hfront with
        | nil => simp only [List.nil_append, pairs?, hnone]
        | @cons c d byte cs bytes first _ ih =>
            rw [List.cons_append, List.cons_append, pairs?,
              number?_pair.mpr ⟨byte, rfl, first⟩]
            simp [ih, Except.map]

/-- An odd number of characters is refused as such. -/
lemma refuses_odd_iff {cs : List Char} {f : Fault} (hodd : cs.length % 2 = 1) :
    Refuses cs f ↔ f = .oddDigits := by
  constructor
  · intro h
    cases h with
    | odd => rfl
    | pair hfront hpair hrest =>
        have hlength := hfront.length
        simp only [List.length_append, List.length_cons] at hodd
        omega
  · rintro rfl
    exact .odd hodd

/-- A text is read as the bytes that its payload writes. -/
lemma parseBytes_eq_ok_iff {text : String} {bytes : List UInt8} :
    parseBytes text = .ok bytes ↔ Writes Spells (payloadDigits text.toList) bytes := by
  rw [parseBytes, bytes?]
  split_ifs with heven
  · rw [← pairs?_eq_ok_iff]
    cases pairs? (payloadDigits text.toList) <;> simp [Except.mapError]
  · simp only [Except.mapError, reduceCtorEq, false_iff]
    intro h
    have := h.length
    omega

/-- A text is read as the bytes that its payload writes, each pair of characters for one byte:
two digits, or a plus sign and a digit.  The payload is of digits only, with the bytes as their
values, just where the text is read and there is no plus sign.  Every other text is refused,
with what is wrong with it. -/
theorem parseBytes_spelled (text : String) :
    ∃ body, (∀ cs, Payload text.toList cs ↔ cs = body) ∧
      (∀ bytes, parseBytes text = .ok bytes ↔ Writes Spells body bytes) ∧
      (∀ bytes, Writes TwoDigits body bytes ↔ parseBytes text = .ok bytes ∧ '+' ∉ body) ∧
      ∀ e, parseBytes text = .error e ↔ e.input = text ∧ Refuses body e.fault := by
  refine ⟨payloadDigits text.toList, fun cs => payload_iff, fun bytes => parseBytes_eq_ok_iff,
    fun bytes => by rw [parseBytes_eq_ok_iff, writes_twoDigits_iff], ?_⟩
  set body := payloadDigits text.toList with hbody
  rintro ⟨input, fault⟩
  rw [parseBytes, bytes?, ← hbody]
  split_ifs with heven
  · rw [← pairs?_eq_error_iff heven]
    cases pairs? body <;> simp [Except.mapError, eq_comm]
  · simp [Except.mapError, refuses_odd_iff (by omega : body.length % 2 = 1), eq_comm]

/-- A plus sign and a digit are read as a byte, although a plus sign is no digit. -/
theorem parseBytes_sign :
    parseBytes "+f" = .ok [15] ∧ Payload "+f".toList ['+', 'f'] ∧
      ¬ ∃ bytes, Writes TwoDigits ['+', 'f'] bytes := by
  refine ⟨by decide, payload_iff.mpr (by decide), ?_⟩
  rintro ⟨bytes, h⟩
  cases h with
  | cons first => exact first.ne_plus.1 rfl

end Hex

end UsbPipe
