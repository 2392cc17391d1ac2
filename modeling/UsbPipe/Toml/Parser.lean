/-
Reading TOML text.

* `Statement`: what a line of a document says, a value for a key or a header.
* `value?`: a value whose brackets and braces are at most so many deep.
* `statements?`: the statements of a document.
* `parse?`: the entries that a document gives to its root.
-/
import UsbPipe.Toml.Number

namespace UsbPipe.Toml

/-! ### Keys -/

/-- A character of a key without quotes. -/
def isKeyChar (c : Char) : Bool := c.isAlphanum || c == '-' || c == '_'

/-- One part of a key. -/
def key? (cs : List Char) : Option (String × List Char) :=
  match shortString? cs with
  | some (key, rest) => some (String.ofList key, rest)
  | none =>
    match cs.takeWhile isKeyChar with
    | [] => none
    | key => some (String.ofList key, cs.dropWhile isKeyChar)

/-- A key of at most `count` parts with points between. -/
def keys? : Nat → List Char → Option (List String × List Char)
  | 0, _ => none
  | count + 1, cs => do
    let (key, rest) ← key? (skipBlanks cs)
    match skipBlanks rest with
    | '.' :: rest => (keys? count rest).map fun (keys, rest) => (key :: keys, rest)
    | rest => pure ([key], rest)

/-- The most parts of a key, and the most brackets around a value. -/
def maxDepth : Nat := 79

/-- A key and a value, read by `value`, with an equals sign between. -/
def pair? (value : Reader Toml) (cs : List Char) : Option ((List String × Toml) × List Char) := do
  let (keys, rest) ← keys? maxDepth cs
  let (v, rest) ← value (skipBlanks (← expect? '=' rest))
  pure ((keys, v), rest)

/-! ### Values -/

/-- A value without brackets and braces. -/
def scalar? : List Char → Option (Toml × List Char)
  | [] => none
  | c :: rest =>
    if c = '"' ∨ c = '\'' then
      (string? (c :: rest)).map fun (text, rest) => (.str (String.ofList text), rest)
    else if c = 't' then (word? "rue".toList rest).map fun ((), rest) => (.bool true, rest)
    else if c = 'f' then (word? "alse".toList rest).map fun ((), rest) => (.bool false, rest)
    else (date? (c :: rest)).or (number? (c :: rest))

/-- At most `count` items up to a closing bracket; the last may be followed by a comma. -/
def items? (value : Reader Toml) : Nat → List Char → Option (List Toml × List Char)
  | 0, _ => none
  | count + 1, cs =>
    match skipLines cs with
    | ']' :: rest => some ([], rest)
    | cs => do
      let (v, rest) ← value cs
      match skipLines rest with
      | ',' :: rest => (items? value count rest).map fun (vs, rest) => (v :: vs, rest)
      | ']' :: rest => pure ([v], rest)
      | _ => none

/-- Between one and `count` pairs up to a closing brace, all on one line. -/
def pairs? (value : Reader Toml) :
    Nat → List Char → Option (List (List String × Toml) × List Char)
  | 0, _ => none
  | count + 1, cs => do
    let (p, rest) ← pair? value cs
    match skipBlanks rest with
    | ',' :: rest => (pairs? value count rest).map fun (ps, rest) => (p :: ps, rest)
    | '\x7d' :: rest => pure ([p], rest)
    | _ => none

/-- An array after its opening bracket. -/
def array? (value : Reader Toml) (cs : List Char) : Option (Toml × List Char) := do
  let (vs, rest) ← items? value (cs.length + 1) cs
  pure (.arr vs, rest)

/-- The entries that pairs give to a table. -/
def entriesOf? (pairs : List (List String × Toml)) : Option Entries :=
  pairs.foldlM (fun es (keys, v) => insertDotted? v keys es) []

/-- A table after its opening brace. -/
def inlineTable? (value : Reader Toml) (cs : List Char) : Option (Toml × List Char) := do
  let (pairs, rest) ← match skipBlanks cs with
    | '\x7d' :: rest => some ([], rest)
    | cs => pairs? value (cs.length + 1) cs
  let es ← entriesOf? pairs
  pure (.table .braces es, rest)

/-- A value with at most so many brackets and braces around one of its parts. -/
def value? : Nat → Reader Toml
  | 0, cs => scalar? cs
  | depth + 1, '[' :: rest => array? (value? depth) rest
  | depth + 1, '\x7b' :: rest => inlineTable? (value? depth) rest
  | _ + 1, cs => scalar? cs

/-! ### Documents -/

/-- What a line of a document says. -/
inductive Statement where
  /-- A value for a key. -/
  | pair (keys : List String) (value : Toml)
  /-- The header of a table. -/
  | table (path : List String)
  /-- The header of one more table in an array of tables. -/
  | element (path : List String)

/-- A statement at the start of a line. -/
def statement? : List Char → Option (Statement × List Char)
  | '[' :: '[' :: cs => do
    let (path, rest) ← keys? maxDepth cs
    pure (.element path, ← expect? ']' (← expect? ']' rest))
  | '[' :: cs => do
    let (path, rest) ← keys? maxDepth cs
    pure (.table path, ← expect? ']' rest)
  | cs => (pair? (value? maxDepth) cs).map fun ((keys, v), rest) => (.pair keys v, rest)

/-- The statements of at most `count` lines. -/
def statementsUpTo? : Nat → List Char → Option (List Statement)
  | _, [] => some []
  | 0, _ :: _ => none
  | count + 1, c :: cs =>
    match lineEnd? (c :: cs) with
    | some rest => statementsUpTo? count rest
    | none => do
      let (s, rest) ← statement? (skipBlanks (c :: cs))
      (statementsUpTo? count (← lineEnd? rest)).map (s :: ·)

/-- The statements of a document. -/
def statements? (cs : List Char) : Option (List Statement) := statementsUpTo? cs.length cs

/-- A document in the making: the entries of its root, and the path of the last header. -/
structure Draft where
  entries : Entries := []
  path : List String := []

/-- One statement more. -/
def Draft.add? (d : Draft) : Statement → Option Draft
  | .pair keys v =>
    (if d.path.isEmpty then insertDotted? v keys d.entries
     else update? (filled? keys v) d.path d.entries).map fun es => { d with entries := es }
  | .table path => (update? opened? path d.entries).map fun es => ⟨es, path⟩
  | .element path => (update? extended? path d.entries).map fun es => ⟨es, path⟩

/-- The text after a mark of its byte order. -/
def skipMark : List Char → List Char
  | '\ufeff' :: rest => rest
  | cs => cs

/-- The entries of the root of a document. -/
def parseChars? (cs : List Char) : Option Entries := do
  let statements ← statements? (skipMark cs)
  let d ← statements.foldlM Draft.add? {}
  pure d.entries

/-- The entries of the root of a document. -/
def parse? (s : String) : Option Entries := parseChars? s.toList

end UsbPipe.Toml
