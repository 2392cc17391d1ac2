/-
Pieces of TOML text that carry no value: blanks, comments and ends of lines.

* `Reader`: what is read from the front of a text, and what follows it.
* `newline?`, `lineEnd?`: the end of a line, and the end of a line after a comment.
* `skipBlanks`, `skipLines`, `skipEmptyLines`: blanks on a line, blanks and comments over
  several lines, and blanks over several lines.
-/

namespace UsbPipe.Toml

/-- A value read from the front of a text, with what follows it. -/
abbrev Reader (α : Type) := List Char → Option (α × List Char)

/-- The blanks within a line. -/
def isSpace (c : Char) : Bool := c == ' ' || c == '\t'

/-- A character beyond ASCII. -/
def isWide (c : Char) : Bool := 0x80 ≤ c.toNat

/-- A character that can be seen, or the space. -/
def isPrintable (c : Char) : Bool := 0x20 ≤ c.toNat && c.toNat ≤ 0x7e

/-- What a comment or a text in quotes may hold: no control character but the tab. -/
def isPlain (c : Char) : Bool := c == '\t' || isPrintable c || isWide c

/-- The text after its blanks. -/
def skipBlanks (cs : List Char) : List Char := cs.dropWhile isSpace

/-- The text after the end of a line. -/
def newline? : List Char → Option (List Char)
  | '\n' :: rest => some rest
  | '\r' :: '\n' :: rest => some rest
  | _ => none

/-- The text after a comment, if it starts with one. -/
def skipComment : List Char → List Char
  | '#' :: rest => rest.dropWhile isPlain
  | cs => cs

/-- The text after the rest of a line that holds nothing more, but perhaps a comment. -/
def lineEnd? (cs : List Char) : Option (List Char) :=
  match skipComment (skipBlanks cs) with
  | [] => some []
  | rest => newline? rest

/-- The text after at most `count` lines that `strip` leaves nothing of. -/
def skipLinesUpTo (strip : List Char → List Char) : Nat → List Char → List Char
  | 0, cs => skipBlanks cs
  | count + 1, cs =>
    match newline? (strip cs) with
    | some rest => skipLinesUpTo strip count rest
    | none => skipBlanks cs

/-- The text after blanks, comments and ends of lines. -/
def skipLines (cs : List Char) : List Char :=
  skipLinesUpTo (fun cs => skipComment (skipBlanks cs)) cs.length cs

/-- The text after blanks and ends of lines. -/
def skipEmptyLines (cs : List Char) : List Char := skipLinesUpTo skipBlanks cs.length cs

/-- A word at the front of a text. -/
def word? : List Char → Reader Unit
  | [], cs => some ((), cs)
  | w :: ws, c :: cs => if w = c then word? ws cs else none
  | _ :: _, [] => none

end UsbPipe.Toml
