/-
Reading JSON text.

* `Json.parse?`: the value of a text that is one JSON value with blanks around it.
* `string?`, `number?`: the scalars; a string whose escapes leave a surrogate
  unpaired is read without its text, an escape that is no escape is refused.
* `value?`, `items?`, `members?`: the recursive grammar, on a bound for the depth of
  recursion.  A bracket costs two steps, so twice the length of the text covers it.
-/
import UsbPipe.Json.Basic

namespace UsbPipe.Json

open Text

/-! ### Blanks and words -/

/-- The four blanks between tokens. -/
def isSpace (c : Char) : Bool := c == ' ' || c == '\n' || c == '\t' || c == '\r'

/-- The text after its blanks. -/
def skipSpaces (cs : List Char) : List Char := cs.dropWhile isSpace

/-- What follows a word, if the text starts with it. -/
def word? : List Char → List Char → Option (List Char)
  | [], cs => some cs
  | w :: ws, c :: cs => if w = c then word? ws cs else none
  | _ :: _, [] => none

/-! ### Strings -/

/-- The value of four hexadecimal digits, and what follows them. -/
def unit? : List Char → Option (Nat × List Char)
  | a :: b :: c :: d :: rest => do
    let a ← hexValue? a
    let b ← hexValue? b
    let c ← hexValue? c
    let d ← hexValue? d
    pure (4096 * a + 256 * b + 16 * c + d, rest)
  | _ => none

/-- The character of a one-letter escape. -/
def simpleEscape? (c : Char) : Option Char :=
  if c = '"' then some '"'
  else if c = '\\' then some '\\'
  else if c = '/' then some '/'
  else if c = 'b' then some '\x08'
  else if c = 'f' then some '\x0c'
  else if c = 'n' then some '\n'
  else if c = 'r' then some '\r'
  else if c = 't' then some '\t'
  else none

/-- The first unit of a surrogate pair. -/
def isHighSurrogate (u : Nat) : Bool := 0xd800 ≤ u && u < 0xdc00

/-- The second unit of a surrogate pair. -/
def isLowSurrogate (u : Nat) : Bool := 0xdc00 ≤ u && u < 0xe000

/-- The character of a surrogate pair. -/
def pairChar (high low : Nat) : Char :=
  Char.ofNat (0x10000 + 0x400 * (high - 0xd800) + (low - 0xdc00))

/-- One character of string contents: plain, escaped, or `none` for an unpaired
surrogate.  A pair of surrogate escapes is one character. -/
def stringChar? : List Char → Option (Option Char × List Char)
  | [] => none
  | '\\' :: 'u' :: rest => do
    let (u, rest) ← unit? rest
    if isHighSurrogate u then
      match rest with
      | '\\' :: 'u' :: more =>
        match unit? more with
        | some (v, after) =>
          if isLowSurrogate v then pure (some (pairChar u v), after) else pure (none, rest)
        | none => pure (none, rest)
      | _ => pure (none, rest)
    else if isLowSurrogate u then pure (none, rest)
    else pure (some (Char.ofNat u), rest)
  | '\\' :: c :: rest => (simpleEscape? c).map fun e => (some e, rest)
  | '\\' :: [] => none
  | c :: rest => if c.toNat < 0x20 then none else some (some c, rest)

/-- String contents up to the closing quote.  The contents are `none` if one of
the characters is. -/
def stringTail? : Nat → List Char → Option (Option (List Char) × List Char)
  | 0, _ => none
  | _ + 1, '"' :: rest => some (some [], rest)
  | fuel + 1, cs => do
    let (c?, rest) ← stringChar? cs
    let (tail?, rest) ← stringTail? fuel rest
    pure (do pure ((← c?) :: (← tail?)), rest)

/-- A string after its opening quote. -/
def string? (cs : List Char) : Option (Option String × List Char) := do
  let (contents?, rest) ← stringTail? (cs.length + 1) cs
  pure (contents?.map String.ofList, rest)

/-! ### Numbers -/

/-- A nonempty run of digits, and what follows it. -/
def digits? (cs : List Char) : Option (List Char × List Char) :=
  match cs.takeWhile Char.isDigit with
  | [] => none
  | ds => some (ds, cs.dropWhile Char.isDigit)

/-- An integer part: a zero, or a run of digits that does not start with one. -/
def wholePart? : List Char → Option (List Char × List Char)
  | '0' :: rest => if (rest.head?.map Char.isDigit).getD false then none else some (['0'], rest)
  | cs => digits? cs

/-- A fraction, which may be missing. -/
def fraction? : List Char → Option (List Char × List Char)
  | '.' :: rest => (digits? rest).map fun (ds, rest) => ('.' :: ds, rest)
  | cs => some ([], cs)

/-- An exponent, which may be missing. -/
def exponent? : List Char → Option (List Char × List Char)
  | e :: rest =>
    if e = 'e' ∨ e = 'E' then
      match rest with
      | s :: more =>
        if s = '+' ∨ s = '-' then (digits? more).map fun (ds, rest) => (e :: s :: ds, rest)
        else (digits? rest).map fun (ds, rest) => (e :: ds, rest)
      | [] => none
    else some ([], e :: rest)
  | [] => some ([], [])

/-- A number without its sign: natural if it has neither fraction nor exponent. -/
def unsigned? (cs : List Char) : Option (Json × List Char) := do
  let (whole, rest) ← wholePart? cs
  let (fraction, rest) ← fraction? rest
  let (exponent, rest) ← exponent? rest
  match fraction ++ exponent with
  | [] => pure (.nat (decimalValue whole), rest)
  | tail => pure (.number (whole ++ tail), rest)

/-- A number; with a sign it is never natural. -/
def number? : List Char → Option (Json × List Char)
  | '-' :: cs => do
    let (n, rest) ← unsigned? cs
    match n with
    | .nat _ => pure (.number ('-' :: cs.take (cs.length - rest.length)), rest)
    | .number lexeme => pure (.number ('-' :: lexeme), rest)
    | _ => none
  | cs => unsigned? cs

/-! ### Values -/

mutual

/-- A value after any blanks, and what follows it. -/
def value? : Nat → List Char → Option (Json × List Char)
  | 0, _ => none
  | fuel + 1, cs =>
    match skipSpaces cs with
    | '"' :: rest => (string? rest).map fun (s?, rest) => (.str s?, rest)
    | '[' :: rest =>
      match skipSpaces rest with
      | ']' :: rest => some (.arr [], rest)
      | rest => (items? fuel rest).map fun (vs, rest) => (.arr vs, rest)
    | '\x7b' :: rest =>
      match skipSpaces rest with
      | '\x7d' :: rest => some (.obj [], rest)
      | rest => (members? fuel rest).map fun (ms, rest) => (.obj ms, rest)
    | 'n' :: rest => (word? "ull".toList rest).map fun rest => (.null, rest)
    | 't' :: rest => (word? "rue".toList rest).map fun rest => (.bool true, rest)
    | 'f' :: rest => (word? "alse".toList rest).map fun rest => (.bool false, rest)
    | rest => number? rest

/-- At least one item, up to the closing bracket. -/
def items? : Nat → List Char → Option (List Json × List Char)
  | 0, _ => none
  | fuel + 1, cs => do
    let (v, rest) ← value? fuel cs
    match skipSpaces rest with
    | ',' :: rest =>
      let (vs, rest) ← items? fuel rest
      pure (v :: vs, rest)
    | ']' :: rest => pure ([v], rest)
    | _ => none

/-- At least one member, up to the closing brace. -/
def members? : Nat → List Char → Option (List (Option String × Json) × List Char)
  | 0, _ => none
  | fuel + 1, cs =>
    match skipSpaces cs with
    | '"' :: rest => do
      let (name?, rest) ← string? rest
      match skipSpaces rest with
      | ':' :: rest =>
        let (v, rest) ← value? fuel rest
        match skipSpaces rest with
        | ',' :: rest =>
          let (ms, rest) ← members? fuel rest
          pure ((name?, v) :: ms, rest)
        | '\x7d' :: rest => pure ([(name?, v)], rest)
        | _ => none
      | _ => none
    | _ => none

end

/-- The value of a text that holds one value and blanks around it. -/
def parseChars? (cs : List Char) : Option Json := do
  let (v, rest) ← value? (2 * cs.length + 2) cs
  if (skipSpaces rest).isEmpty then pure v else none

/-- The value of a text that holds one value and blanks around it. -/
def parse? (s : String) : Option Json := parseChars? s.toList

end UsbPipe.Json
