/-
Writing texts and numbers of TOML.

* `Quotes`: the ways to write a text, with the rule when each one fits.
* `quotesFor`: the first way that fits a text; without one, double quotes with escapes.
* `quoted`: a text written in that way.
* `quoted_plain`: a text of plain characters stands in double quotes as it is.
* `shortString?_quoted`: such a text is read back from its quotes.
-/
import UsbPipe.Text.Digits
import UsbPipe.Toml.Quoted

namespace UsbPipe.Toml

open Text

/-- The ways to write a text. -/
inductive Quotes where
  | double
  | single
  | longDouble
  | longSingle
  deriving DecidableEq

/-- A control character. -/
def isControl (c : Char) : Bool := c.toNat < 0x20 || c.toNat == 0x7f

/-- A control character that has to be escaped wherever it stands. -/
def isHidden (c : Char) : Bool := isControl c && c != '\t' && c != '\n'

/-- Whether a text holds three times a quote in a row. -/
def hasTriple (quote : Char) : List Char → Bool
  | a :: b :: c :: rest =>
    (a == quote && b == quote && c == quote) || hasTriple quote (b :: c :: rest)
  | _ => false

/-- Whether a text can be written in a way without an escape. -/
def Quotes.fits (cs : List Char) : Quotes → Bool
  | double => !cs.any fun c => isHidden c || c == '\\' || c == '"' || c == '\n'
  | single => !cs.any fun c => isHidden c || c == '\'' || c == '\n'
  | longDouble => !(cs.any fun c => isHidden c || c == '\\') && !hasTriple '"' cs
  | longSingle => !cs.any isHidden && !hasTriple '\'' cs

/-- The way to write a text: the first that fits, or else double quotes. -/
def quotesFor (cs : List Char) : Quotes :=
  let fallback := if cs.contains '\n' then Quotes.longDouble else .double
  ([Quotes.double, .single, .longDouble, .longSingle].find? (·.fits cs)).getD fallback

/-- The upper-case hexadecimal digit of a value below sixteen. -/
def upperHexDigit (n : Nat) : Char := if n < 10 then Char.ofNat (48 + n) else Char.ofNat (55 + n)

/-- The escape of a control character. -/
def controlEscape (c : Char) : List Char :=
  if c = '\x08' then ['\\', 'b']
  else if c = '\t' then ['\\', 't']
  else if c = '\n' then ['\\', 'n']
  else if c = '\x0c' then ['\\', 'f']
  else if c = '\r' then ['\\', 'r']
  else ['\\', 'u', '0', '0', upperHexDigit (c.toNat / 16), upperHexDigit (c.toNat % 16)]

/-- Contents between double quotes. -/
def escaped : List Char → List Char
  | [] => []
  | c :: cs =>
    if c = '"' ∨ c = '\\' then '\\' :: c :: escaped cs
    else if isControl c then controlEscape c ++ escaped cs
    else c :: escaped cs

/-- Contents between three double quotes, after a run of `run` quotes; the third quote of a
run is escaped. -/
def escapedLong : Nat → List Char → List Char
  | _, [] => []
  | run, c :: cs =>
    if c = '"' then
      if run = 2 then '\\' :: c :: escapedLong 0 cs else c :: escapedLong (run + 1) cs
    else if c = '\\' then '\\' :: c :: escapedLong 0 cs
    else if c = '\n' then c :: escapedLong 0 cs
    else if isControl c then controlEscape c ++ escapedLong 0 cs
    else c :: escapedLong 0 cs

/-- The end of a line that goes before a text of several lines. -/
def leadingNewline (cs : List Char) : List Char := if cs.contains '\n' then ['\n'] else []

/-- A text between quotes. -/
def quoted (cs : List Char) : List Char :=
  match quotesFor cs with
  | .double => '"' :: escaped cs ++ ['"']
  | .single => '\'' :: cs ++ ['\'']
  | .longDouble =>
    ['"', '"', '"'] ++ leadingNewline cs ++ escapedLong 0 cs ++ ['"', '"', '"']
  | .longSingle => ['\'', '\'', '\''] ++ leadingNewline cs ++ cs ++ ['\'', '\'', '\'']

/-! ### Plain texts -/

/-- A character that stands for itself between double quotes. -/
def isBare (c : Char) : Bool := !isControl c && c != '"' && c != '\\'

/-- A text of plain characters needs no escape. -/
theorem escaped_plain {cs : List Char} (h : cs.all isBare = true) : escaped cs = cs := by
  induction cs with
  | nil => rfl
  | cons c cs ih =>
    simp only [List.all_cons, Bool.and_eq_true] at h
    obtain ⟨hc, hcs⟩ := h
    simp only [isBare, Bool.and_eq_true, Bool.not_eq_true', bne_iff_ne, ne_eq] at hc
    simp [escaped, hc.1.1, hc.1.2, hc.2, ih hcs]

/-- A text of plain characters stands in double quotes as it is. -/
theorem quoted_plain {cs : List Char} (h : cs.all isBare = true) :
    quoted cs = '"' :: cs ++ ['"'] := by
  have hfit : Quotes.double.fits cs = true := by
    simp only [Quotes.fits, Bool.not_eq_true', List.any_eq_false]
    intro c hc
    have hb := List.all_eq_true.mp h c hc
    simp only [isBare, Bool.and_eq_true, Bool.not_eq_true', bne_iff_ne, ne_eq] at hb
    have hn : c ≠ '\n' := by
      rintro rfl
      simp [isControl] at hb
    simp [isHidden, hb.1.1, hb.1.2, hb.2, hn]
  simp [quoted, quotesFor, List.find?, hfit, escaped_plain h]

/-- A character that stands for itself may be read there. -/
theorem isPlain_of_isBare {c : Char} (h : isBare c = true) : isPlain c = true := by
  simp only [isBare, isControl, Bool.and_eq_true, Bool.not_eq_true', Bool.or_eq_false_iff,
    decide_eq_false_iff_not, beq_eq_false_iff_ne, ne_eq] at h
  simp only [isPlain, isPrintable, isWide, Bool.or_eq_true, Bool.and_eq_true, beq_iff_eq,
    decide_eq_true_eq]
  omega

/-- Plain characters are read up to the closing quote. -/
theorem basicTail?_plain {cs : List Char} (h : cs.all isBare = true) (rest : List Char)
    (fuel : Nat) (hf : cs.length < fuel) :
    basicTail? fuel (cs ++ '"' :: rest) = some (cs, rest) := by
  induction cs generalizing fuel with
  | nil =>
    cases fuel with
    | zero => simp at hf
    | succ n => simp [basicTail?]
  | cons c cs ih =>
    simp only [List.all_cons, Bool.and_eq_true] at h
    obtain ⟨hc, hcs⟩ := h
    have hp := isPlain_of_isBare hc
    simp only [isBare, Bool.and_eq_true, Bool.not_eq_true', bne_iff_ne, ne_eq] at hc
    cases fuel with
    | zero => simp at hf
    | succ n =>
      have hn : cs.length < n := by simpa using hf
      rw [List.cons_append, basicTail?]
      · simp [hp, ih hcs n hn, prepend]
      · exact fun e => hc.1.2 e
      · exact fun e => hc.2 e

/-- A text of plain characters is read back from its quotes. -/
theorem shortString?_quoted {cs : List Char} (h : cs.all isBare = true) (rest : List Char) :
    shortString? (quoted cs ++ rest) = some (cs, rest) := by
  rw [quoted_plain h]
  simp only [List.cons_append, List.append_assoc, List.nil_append, shortString?]
  exact basicTail?_plain h rest _ (by simp only [List.length_append, List.length_cons]; omega)

end UsbPipe.Toml
