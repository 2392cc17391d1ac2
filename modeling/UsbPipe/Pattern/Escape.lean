/-
Characters of a pattern that are not taken as they are.

* `gap`: the text after blanks and comments, where these mean nothing.
* `hexDigits?`: a number of hexadecimal digits with gaps between.
* `escape?`: what a backslash makes of the characters behind it.
-/
import UsbPipe.Pattern.Basic
import UsbPipe.Text.Blank
import UsbPipe.Text.Digits

namespace UsbPipe.Pattern

open Text

/-! ### Blanks and comments -/

/-- The text after blanks and comments; a comment ends with its line. -/
def skipIgnored (inComment : Bool) : List Char → List Char
  | [] => []
  | c :: rest =>
    if inComment then skipIgnored (c != '\n') rest
    else if isBlank c then skipIgnored false rest
    else if c = '#' then skipIgnored true rest
    else c :: rest

/-- The text after blanks and comments, if the pattern is verbose. -/
def gap (verbose : Bool) (cs : List Char) : List Char :=
  if verbose then skipIgnored false cs else cs

/-- Skipping never makes a text longer. -/
theorem length_skipIgnored_le (inComment : Bool) (cs : List Char) :
    (skipIgnored inComment cs).length ≤ cs.length := by
  fun_induction skipIgnored inComment cs <;> grind

/-! ### Escapes -/

/-- The value of hexadecimal digits, read onto a value before them. -/
def hexDigits? (verbose : Bool) : Nat → Nat → List Char → Option (Nat × List Char)
  | 0, value, cs => some (value, cs)
  | _ + 1, _, [] => none
  | count + 1, value, c :: rest => do
    hexDigits? verbose count (16 * value + (← hexValue? c)) (gap verbose rest)

/-- The character whose number is written by so many hexadecimal digits.  Braces around the
digits are not read. -/
def codePoint? (verbose : Bool) (count : Nat) (cs : List Char) : Option (Leaf × List Char) := do
  let (value, rest) ← hexDigits? verbose count 0 (gap verbose cs)
  if value.isValidChar then pure (.literal ⟨Char.ofNat value, count == 2⟩, rest) else none

/-- The control character of a one-letter escape. -/
def controlEscape? (c : Char) : Option Char :=
  if c = 'a' then some '\x07'
  else if c = 'f' then some '\x0c'
  else if c = 't' then some '\t'
  else if c = 'n' then some '\n'
  else if c = 'r' then some '\r'
  else if c = 'v' then some '\x0b'
  else none

/-- What the text behind a backslash stands for.  Every character of ASCII that is no letter and
no digit may be escaped; of these the angles are edges of words. -/
def escape? (verbose : Bool) : List Char → Option (Leaf × List Char)
  | [] => none
  | c :: rest =>
    if c = 'x' then codePoint? verbose 2 rest
    else if c = 'u' then codePoint? verbose 4 rest
    else if c = 'U' then codePoint? verbose 8 rest
    else if c = 'd' ∨ c = 's' ∨ c = 'w' then some (.shorthand false c, rest)
    else if c = 'D' ∨ c = 'S' ∨ c = 'W' then some (.shorthand true c.toLower, rest)
    else if c = 'A' ∨ c = 'z' then some (.edge, rest)
    else if c = 'b' ∨ c = 'B' ∨ c = '<' ∨ c = '>' then some (.wordEdge, rest)
    else if c.toNat < 0x80 ∧ ¬ c.isAlphanum then some (.literal (.plain c), rest)
    else (controlEscape? c).map fun d => (.literal (.plain d), rest)

end UsbPipe.Pattern
