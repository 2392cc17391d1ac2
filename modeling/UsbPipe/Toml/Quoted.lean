/-
Reading texts in quotes.

* `string?`: a text in any of the four kinds of quotes.
* `shortString?`: a text on one line, in single or double quotes, as keys may be.
* `basicTail?`, `literalTail?`: contents on one line, with and without escapes.
* `longBasicTail?`, `longLiteralTail?`: contents over several lines, up to three quotes.
-/
import UsbPipe.Text.Digits
import UsbPipe.Toml.Reader

namespace UsbPipe.Toml

open Text

/-! ### Escapes -/

/-- The character of a one-letter escape. -/
def simpleEscape? (c : Char) : Option Char :=
  if c = 'b' then some '\x08'
  else if c = 't' then some '\t'
  else if c = 'n' then some '\n'
  else if c = 'f' then some '\x0c'
  else if c = 'r' then some '\r'
  else if c = '"' then some '"'
  else if c = '\\' then some '\\'
  else none

/-- The character whose code point is written in exactly `count` hexadecimal digits. -/
def codePoint? (count : Nat) (cs : List Char) : Option (Char × List Char) := do
  let digits ← (cs.take count).mapM hexValue?
  let code := digits.foldl (fun acc d => 16 * acc + d) 0
  if digits.length = count ∧ code.isValidChar then pure (Char.ofNat code, cs.drop count) else none

/-- The character of an escape, after its backslash. -/
def escape? : List Char → Option (Char × List Char)
  | 'u' :: rest => codePoint? 4 rest
  | 'U' :: rest => codePoint? 8 rest
  | c :: rest => (simpleEscape? c).map fun e => (e, rest)
  | [] => none

/-! ### One line -/

/-- One more character in front of what a reader has read. -/
def prepend (c : Char) : Option (List Char × List Char) → Option (List Char × List Char) :=
  Option.map fun (tail, rest) => (c :: tail, rest)

/-- Contents with escapes, up to the closing quote. -/
def basicTail? : Nat → List Char → Option (List Char × List Char)
  | 0, _ => none
  | _ + 1, [] => none
  | _ + 1, '"' :: rest => some ([], rest)
  | fuel + 1, '\\' :: rest => do
    let (c, rest) ← escape? rest
    prepend c (basicTail? fuel rest)
  | fuel + 1, c :: rest => if isPlain c then prepend c (basicTail? fuel rest) else none

/-- Contents without escapes, up to the closing quote. -/
def literalTail? : List Char → Option (List Char × List Char)
  | [] => none
  | '\'' :: rest => some ([], rest)
  | c :: rest => if isPlain c then prepend c (literalTail? rest) else none

/-- A text on one line. -/
def shortString? : List Char → Option (List Char × List Char)
  | '"' :: rest => basicTail? (rest.length + 1) rest
  | '\'' :: rest => literalTail? rest
  | _ => none

/-! ### Several lines -/

/-- The text after the end of a line and all blanks that follow it. -/
def joined? (cs : List Char) : Option (List Char) :=
  (newline? (skipBlanks cs)).map skipEmptyLines

/-- Contents with escapes, up to three closing quotes, before which there may be two more.
A backslash at the end of a line joins it to the next text. -/
def longBasicTail? : Nat → List Char → Option (List Char × List Char)
  | 0, _ => none
  | _ + 1, [] => none
  | _ + 1, '"' :: '"' :: '"' :: '"' :: '"' :: rest => some (['"', '"'], rest)
  | _ + 1, '"' :: '"' :: '"' :: '"' :: rest => some (['"'], rest)
  | _ + 1, '"' :: '"' :: '"' :: rest => some ([], rest)
  | fuel + 1, '\\' :: rest =>
    match joined? rest with
    | some rest => longBasicTail? fuel rest
    | none => do
      let (c, rest) ← escape? rest
      prepend c (longBasicTail? fuel rest)
  | fuel + 1, c :: cs =>
    match newline? (c :: cs) with
    | some rest => prepend '\n' (longBasicTail? fuel rest)
    | none => if isPlain c then prepend c (longBasicTail? fuel cs) else none

/-- Contents without escapes, up to three closing quotes, before which there may be two
more. -/
def longLiteralTail? : Nat → List Char → Option (List Char × List Char)
  | 0, _ => none
  | _ + 1, [] => none
  | _ + 1, '\'' :: '\'' :: '\'' :: '\'' :: '\'' :: rest => some (['\'', '\''], rest)
  | _ + 1, '\'' :: '\'' :: '\'' :: '\'' :: rest => some (['\''], rest)
  | _ + 1, '\'' :: '\'' :: '\'' :: rest => some ([], rest)
  | fuel + 1, c :: cs =>
    match newline? (c :: cs) with
    | some rest => prepend '\n' (longLiteralTail? fuel rest)
    | none => if isPlain c then prepend c (longLiteralTail? fuel cs) else none

/-- The text after the end of a line, if it starts with one. -/
def skipNewline (cs : List Char) : List Char := (newline? cs).getD cs

/-- A text in any kind of quotes.  The end of a line right after three quotes does not
belong to it. -/
def string? : List Char → Option (List Char × List Char)
  | '"' :: '"' :: '"' :: rest => longBasicTail? (rest.length + 1) (skipNewline rest)
  | '\'' :: '\'' :: '\'' :: rest => longLiteralTail? (rest.length + 1) (skipNewline rest)
  | cs => shortString? cs

end UsbPipe.Toml
