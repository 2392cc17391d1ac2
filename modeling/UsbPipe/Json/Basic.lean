/-
JSON values and their text.

* `Json`: a value.  Whole numbers without sign are `nat`; any other number keeps
  its lexeme.  A text is missing (`none`) where the escapes of a string leave a
  surrogate unpaired.
* `Json.compact`, `Json.pretty`: the text without any blanks, and the text with
  one member a line.
* `escaped`: string contents with only the quote, the backslash and the control
  characters below 0x20 escaped.
-/
import UsbPipe.Text.Decimal
import UsbPipe.Text.Digits

namespace UsbPipe

open Text

/-- A JSON value; members keep their order and may repeat a name. -/
inductive Json where
  | null
  | bool (value : Bool)
  | nat (value : Nat)
  | number (lexeme : List Char)
  | str (text? : Option String)
  | arr (items : List Json)
  | obj (members : List (Option String × Json))

namespace Json

/-- A string value. -/
def text (s : String) : Json := .str (some s)

/-- An object with named members. -/
def members (ms : List (String × Json)) : Json :=
  .obj (ms.map fun (name, value) => (some name, value))

/-! ### Strings -/

/-- A character inside a string. -/
def escaped (c : Char) : List Char :=
  if c = '"' then ['\\', '"']
  else if c = '\\' then ['\\', '\\']
  else if c = '\x08' then ['\\', 'b']
  else if c = '\t' then ['\\', 't']
  else if c = '\n' then ['\\', 'n']
  else if c = '\x0c' then ['\\', 'f']
  else if c = '\r' then ['\\', 'r']
  else if c.toNat < 0x20 then ['\\', 'u', '0', '0'] ++ byteDigits c.toNat.toUInt8
  else [c]

/-- A string in quotes. -/
def quoted (s : String) : List Char :=
  '"' :: (s.toList.flatMap escaped ++ ['"'])

/-- A string that has no text is written empty. -/
def quoted? (s? : Option String) : List Char := quoted (s?.getD "")

/-! ### Text without blanks -/

mutual

/-- The text of a value without blanks. -/
def compact : Json → List Char
  | null => "null".toList
  | bool true => "true".toList
  | bool false => "false".toList
  | nat n => decimal n
  | number lexeme => lexeme
  | str s? => quoted? s?
  | arr items => '[' :: compactItems items
  | obj ms => '\x7b' :: compactMembers ms

/-- The items of an array up to its closing bracket. -/
def compactItems : List Json → List Char
  | [] => [']']
  | [v] => compact v ++ [']']
  | v :: w :: vs => compact v ++ ',' :: compactItems (w :: vs)

/-- The members of an object up to its closing brace. -/
def compactMembers : List (Option String × Json) → List Char
  | [] => ['\x7d']
  | [(name?, v)] => quoted? name? ++ ':' :: compact v ++ ['\x7d']
  | (name?, v) :: m :: ms => quoted? name? ++ ':' :: compact v ++ ',' :: compactMembers (m :: ms)

end

/-! ### Text with one member a line -/

/-- A line break and two blanks for each level. -/
def lineBreak (level : Nat) : List Char := '\n' :: List.replicate (2 * level) ' '

mutual

/-- The text of a value whose members stand on lines of their own, at an indentation level. -/
def prettyAt (level : Nat) : Json → List Char
  | arr (v :: vs) => '[' :: prettyItems level (v :: vs)
  | obj (m :: ms) => '\x7b' :: prettyMembers level (m :: ms)
  | arr [] => ['[', ']']
  | obj [] => ['\x7b', '\x7d']
  | null => "null".toList
  | bool true => "true".toList
  | bool false => "false".toList
  | nat n => decimal n
  | number lexeme => lexeme
  | str s? => quoted? s?

/-- The items of an array, each on a line one level in, and the closing bracket. -/
def prettyItems (level : Nat) : List Json → List Char
  | [] => lineBreak level ++ [']']
  | [v] => lineBreak (level + 1) ++ prettyAt (level + 1) v ++ lineBreak level ++ [']']
  | v :: w :: vs =>
    lineBreak (level + 1) ++ prettyAt (level + 1) v ++ ',' :: prettyItems level (w :: vs)

/-- The members of an object, each on a line one level in, and the closing brace. -/
def prettyMembers (level : Nat) : List (Option String × Json) → List Char
  | [] => lineBreak level ++ ['\x7d']
  | [(name?, v)] =>
    lineBreak (level + 1) ++ quoted? name? ++ ':' :: ' ' :: prettyAt (level + 1) v
      ++ lineBreak level ++ ['\x7d']
  | (name?, v) :: m :: ms =>
    lineBreak (level + 1) ++ quoted? name? ++ ':' :: ' ' :: prettyAt (level + 1) v
      ++ ',' :: prettyMembers level (m :: ms)

end

/-- The text of a value whose members stand on lines of their own. -/
def pretty (v : Json) : List Char := prettyAt 0 v

end Json

end UsbPipe
