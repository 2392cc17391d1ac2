/-
The texts that write a payload.

Bytes are rendered by two digits each, in either case, with blanks and colons strewn among them
as one likes; in front there may be blanks, and behind those one marker.  Whatever the choice,
the payload of the text is the digits alone, so the bytes are read back.

* `counts`, `Strewn`: the characters that count in a payload, and a text in which others stand
  among given ones; `strewn_iff`.
* `Renders`: a text that writes bytes; `renders_iff` says that these are the texts whose payload
  is digits of the bytes.
* `renders_formatChars`: bytes in their usual form.
* `parseBytes_rendering`: bytes are read back from their usual form, and from every other one.
-/
import UsbPipe.Proofs.Hex.Payload

namespace UsbPipe

namespace Text

/-- Trimming takes nothing that a filter lets through, if it lets no blanks through. -/
lemma Trimmed.filter_eq {cs core : List Char} (h : Trimmed cs core) {p : Char → Bool}
    (hp : ∀ c, isBlank c = true → p c = false) : core.filter p = cs.filter p := by
  obtain ⟨front, back, rfl, hfront, hback, -, -⟩ := h
  have hnone : ∀ blanks : List Char, (∀ c ∈ blanks, isBlank c = true) → blanks.filter p = [] :=
    fun blanks h => List.filter_eq_nil_iff.mpr fun c hc => by simp [hp c (h c hc)]
  rw [List.filter_append, List.filter_append, hnone front hfront, hnone back hback,
    List.nil_append, List.append_nil]

/-- A digit in front of a text and a letter behind it stay when the text is trimmed. -/
lemma trimmed_cons_cons {blanks body : List Char} {a b : Char}
    (hblanks : ∀ c ∈ blanks, isBlank c = true) (ha : isBlank a = false) (hb : isBlank b = false) :
    Trimmed (blanks ++ a :: b :: body) (a :: b :: body.rdropWhile isBlank) := by
  refine ⟨blanks, body.rtakeWhile isBlank, ?_, hblanks, fun c => List.mem_rtakeWhile_imp,
    by simpa using ha, fun c hc => ?_⟩
  · rw [List.append_assoc, List.cons_append, List.cons_append,
      List.rdropWhile_append_rtakeWhile]
  · -- the last character is that of the body, or else the letter
    by_cases hne : body.rdropWhile isBlank = []
    · rw [hne] at hc
      obtain rfl : b = c := by simpa using hc
      exact hb
    · rw [List.getLast?_cons_cons, List.getLast?_cons_of_ne_nil hne,
        List.getLast?_eq_some_getLast hne] at hc
      obtain rfl := Option.some.inj hc
      exact Bool.eq_false_iff.mpr (List.rdropWhile_last_not isBlank body hne)

end Text

namespace Hex

open Text

/-! ### Texts with blanks and colons in them -/

/-- Whether a character counts in a payload: all but blanks and colons do. -/
def counts (c : Char) : Bool := !isBlank c && c != ':'

/-- The text holds the given characters in their order, and else only blanks and colons. -/
inductive Strewn : List Char → List Char → Prop where
  | nil : Strewn [] []
  | keep {c : Char} {cs text : List Char} (rest : Strewn cs text) : Strewn (c :: cs) (c :: text)
  | fill {c : Char} {cs text : List Char} (hc : isBlank c = true ∨ c = ':')
      (rest : Strewn cs text) : Strewn cs (c :: text)

lemma counts_eq_false_iff {c : Char} : counts c = false ↔ isBlank c = true ∨ c = ':' := by
  rw [counts, Bool.and_eq_false_iff, Bool.not_eq_false', bne_eq_false_iff_eq]

/-- Characters that count are told from what is strewn among them. -/
lemma strewn_iff {cs text : List Char} (hcs : ∀ c ∈ cs, counts c = true) :
    Strewn cs text ↔ text.filter counts = cs := by
  constructor
  · intro h
    induction h with
    | nil => rfl
    | keep _ ih =>
        rw [List.filter_cons_of_pos (hcs _ (List.mem_cons_self ..)),
          ih fun c hc => hcs c (List.mem_cons_of_mem _ hc)]
    | fill hc _ ih =>
        rw [List.filter_cons_of_neg (by simp [counts_eq_false_iff.mpr hc]), ih hcs]
  · rintro rfl
    clear hcs
    induction text with
    | nil => exact .nil
    | cons c text ih =>
        cases hc : counts c with
        | true => rw [List.filter_cons_of_pos hc]; exact .keep ih
        | false =>
            rw [List.filter_cons_of_neg (by simp [hc])]
            exact .fill (counts_eq_false_iff.mp hc) ih

/-! ### Renderings -/

/-- A marker, or none. -/
def IsMarker (cs : List Char) : Prop := cs ∈ [[], ['0', 'x'], ['0', 'X']]

/-- A marker is what is taken off the front of a payload. -/
lemma isMarker_iff {cs : List Char} :
    IsMarker cs ↔ cs = [] ∨ ∃ x, (x = 'x' ∨ x = 'X') ∧ cs = ['0', x] := by
  simp [IsMarker, or_and_right, exists_or]

/-- A text that writes bytes: blanks, perhaps a marker, and two digits for every byte with
blanks and colons before, between and behind the digits. -/
def Renders (text : List Char) (bytes : List UInt8) : Prop :=
  ∃ blanks marker digits body, text = blanks ++ marker ++ body ∧
    (∀ c ∈ blanks, isBlank c = true) ∧ IsMarker marker ∧
    Writes TwoDigits digits bytes ∧ Strewn digits body

/-- A digit counts, and is not the letter of a marker. -/
lemma counts_of_digit {c : Char} {value : Nat} (h : Digit c value) :
    counts c = true ∧ c ≠ 'x' ∧ c ≠ 'X' := by
  have hall : ∀ p ∈ digitTable, counts p.1 = true ∧ p.1 ≠ 'x' ∧ p.1 ≠ 'X' := by decide
  exact hall (c, value) h

/-- So it is with all characters that write bytes. -/
lemma Writes.counts {digits : List Char} {bytes : List UInt8} (h : Writes TwoDigits digits bytes) :
    ∀ c ∈ digits, counts c = true ∧ c ≠ 'x' ∧ c ≠ 'X' := by
  induction h with
  | nil => simp
  | cons first _ ih =>
      obtain ⟨high, low, hhigh, hlow, -⟩ := first
      simp only [List.mem_cons, forall_eq_or_imp]
      exact ⟨counts_of_digit hhigh, counts_of_digit hlow, ih⟩

/-- Whatever blanks, colons and marker a rendering has, its payload is the digits alone. -/
lemma Renders.payload {text : List Char} {bytes : List UInt8} (h : Renders text bytes) :
    ∃ digits, Payload text digits ∧ Writes TwoDigits digits bytes := by
  obtain ⟨blanks, marker, digits, body, rfl, hblanks, hmarker, hwrites, hstrewn⟩ := h
  have hblank : ∀ c, isBlank c = true → counts c = false := fun c hc =>
    counts_eq_false_iff.mpr (Or.inl hc)
  have hfilter : (blanks ++ marker ++ body).filter counts = marker ++ digits := by
    have hfront : blanks.filter counts = [] :=
      List.filter_eq_nil_iff.mpr fun c hc => by simp [hblank c (hblanks c hc)]
    have hmiddle : marker.filter counts = marker := by
      have hall : ∀ cs ∈ [[], ['0', 'x'], ['0', 'X']], cs.filter counts = cs := by decide
      exact hall marker hmarker
    have hbody : body.filter counts = digits :=
      (strewn_iff fun c hc => (hwrites.counts c hc).1).mp hstrewn
    rw [List.filter_append, List.filter_append, hfront, hmiddle, hbody, List.nil_append]
  refine ⟨digits, ?_, hwrites⟩
  cases isMarker_iff.mp hmarker with
  | inl hnone =>
      subst hnone
      have htrimmed := trimmed_iff.mpr (Eq.refl (trimBlanks (blanks ++ [] ++ body)))
      have hcore : (trimBlanks (blanks ++ [] ++ body)).filter counts = digits := by
        rw [htrimmed.filter_eq hblank, hfilter, List.nil_append]
      refine ⟨_, _, htrimmed, Or.inr ⟨rfl, fun x tail hx hstart => ?_⟩, hcore.symm⟩
      -- the letter of a marker would be among the digits
      have hmem : x ∈ digits := by
        rw [← hcore, hstart]
        rcases hx with rfl | rfl <;> exact List.mem_filter.mpr ⟨by simp, by decide⟩
      exact hx.elim (hwrites.counts x hmem).2.1 (hwrites.counts x hmem).2.2
  | inr hsome =>
      obtain ⟨x, hx, rfl⟩ := hsome
      rw [List.append_assoc] at hfilter ⊢
      have htrimmed : Trimmed (blanks ++ '0' :: x :: body) ('0' :: x :: body.rdropWhile isBlank) :=
        trimmed_cons_cons hblanks (by decide) (by rcases hx with rfl | rfl <;> decide)
      have hcore : ('0' :: x :: body.rdropWhile isBlank).filter counts = '0' :: x :: digits := by
        rw [htrimmed.filter_eq hblank]
        exact hfilter
      have hrest : (body.rdropWhile isBlank).filter counts = digits := by
        have hcounts : counts x = true := by rcases hx with rfl | rfl <;> decide
        rw [List.filter_cons_of_pos (by decide), List.filter_cons_of_pos hcounts] at hcore
        exact (List.cons.inj (List.cons.inj hcore).2).2
      exact ⟨_, _, htrimmed, Or.inl ⟨x, hx, rfl⟩, hrest.symm⟩

/-- A text renders bytes just if its payload is digits of them. -/
lemma renders_iff {text : List Char} {bytes : List UInt8} :
    Renders text bytes ↔ Writes TwoDigits (payloadDigits text) bytes := by
  constructor
  · intro h
    obtain ⟨digits, hpayload, hwrites⟩ := h.payload
    rwa [payload_iff.mp hpayload] at hwrites
  · intro h
    obtain ⟨front, back, htext, hfront, hback, -, -⟩ := trimmed_iff.mpr (Eq.refl (trimBlanks text))
    set core := trimBlanks text with hcore
    set rest := (afterMarker? core).getD core with hrest
    obtain ⟨marker, hmarker, hsplit⟩ : ∃ marker, IsMarker marker ∧ core = marker ++ rest := by
      rcases unmarked_iff.mpr hrest with ⟨x, hx, h⟩ | ⟨h, -⟩
      · exact ⟨['0', x], isMarker_iff.mpr (Or.inr ⟨x, hx, rfl⟩), h⟩
      · exact ⟨[], isMarker_iff.mpr (Or.inl rfl), h.symm⟩
    have hbody : (rest ++ back).filter counts = payloadDigits text := by
      have hnone : back.filter counts = [] := List.filter_eq_nil_iff.mpr fun c hc => by
        simp [counts_eq_false_iff.mpr (Or.inl (hback c hc))]
      rw [List.filter_append, hnone, List.append_nil]
      rfl
    refine ⟨front, marker, payloadDigits text, rest ++ back, ?_, hfront, hmarker, h, ?_⟩
    · rw [htext, hsplit]
      simp only [List.append_assoc]
    · exact (strewn_iff fun c hc => (h.counts c hc).1).mpr hbody

/-- A rendering is read as the bytes that it writes, and all texts that are read are renderings,
but for a plus sign in the payload. -/
lemma renders_iff_parseBytes {text : String} {bytes : List UInt8} :
    Renders text.toList bytes ↔
      parseBytes text = .ok bytes ∧ '+' ∉ payloadDigits text.toList := by
  rw [renders_iff, writes_twoDigits_iff, parseBytes_eq_ok_iff]

/-! ### The usual form -/

/-- A byte is written by its two digits. -/
lemma twoDigits_byteDigits (byte : UInt8) :
    TwoDigits (hexDigit (byte.toNat / 16)) (hexDigit (byte.toNat % 16)) byte := by
  have hlt := byte.toNat_lt
  have hhigh := hexValue?_hexDigit ⟨byte.toNat / 16, by omega⟩
  have hlow := hexValue?_hexDigit ⟨byte.toNat % 16, by omega⟩
  exact ⟨_, _, hexValue?_eq_some_iff.mp hhigh, hexValue?_eq_some_iff.mp hlow,
    (Nat.div_add_mod byte.toNat 16).symm⟩

/-- The usual form is a rendering, with a blank between two bytes. -/
lemma renders_formatChars (bytes : List UInt8) : Renders (formatChars bytes) bytes := by
  have hwrites : Writes TwoDigits (bytes.flatMap byteDigits) bytes := by
    induction bytes with
    | nil => exact .nil
    | cons byte bytes ih => exact .cons (twoDigits_byteDigits byte) ih
  have hstrewn : Strewn (bytes.flatMap byteDigits) (formatChars bytes) := by
    clear hwrites
    induction bytes with
    | nil => exact .nil
    | cons byte bytes ih =>
        cases bytes with
        | nil => exact .keep (.keep .nil)
        | cons next bytes => exact .keep (.keep (.fill (Or.inl (by decide)) ih))
  exact ⟨[], [], _, _, rfl, by simp, isMarker_iff.mpr (Or.inl rfl), hwrites, hstrewn⟩

/-- Bytes are read back from their usual form, and from every text that renders them: two digits
for each in either case, blanks and a marker in front, blanks and colons anywhere else. -/
theorem parseBytes_rendering (bytes : List UInt8) :
    parseBytes (format bytes) = .ok bytes ∧
      ∀ text : String, Renders text.toList bytes → parseBytes text = .ok bytes := by
  refine ⟨(renders_iff_parseBytes.mp ?_).1, fun text h => (renders_iff_parseBytes.mp h).1⟩
  rw [format, String.toList_ofList]
  exact renders_formatChars bytes

/-- A colon behind the marker, a wide blank inside the first byte, and digits in both cases. -/
theorem parseBytes_rendering_strewn :
    Renders "\u2003\t0X:0\u3000D : eE\n".toList [0x0d, 0xee] ∧
      parseBytes "\u2003\t0X:0\u3000D : eE\n" = .ok [0x0d, 0xee] := by
  have hwrites : Writes TwoDigits ['0', 'D', 'e', 'E'] [0x0d, 0xee] :=
    .cons ⟨0, 13, by decide, by decide, rfl⟩ (.cons ⟨14, 14, by decide, by decide, rfl⟩ .nil)
  have hrenders : Renders "\u2003\t0X:0\u3000D : eE\n".toList [0x0d, 0xee] :=
    ⟨['\u2003', '\t'], ['0', 'X'], _, ":0\u3000D : eE\n".toList, rfl,
      List.all_eq_true.mp (by decide), by simp [IsMarker], hwrites,
      (strewn_iff (List.all_eq_true.mp (by decide))).mpr (by decide)⟩
  exact ⟨hrenders, (parseBytes_rendering [0x0d, 0xee]).2 _ hrenders⟩

end Hex

end UsbPipe
