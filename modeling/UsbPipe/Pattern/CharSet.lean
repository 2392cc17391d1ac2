/-
Reading sets of characters.

* `namedSet?`: a set of ASCII that has a name.
* `setRange?`: a character, a shorthand, or a range of characters.
* `set?`: a set behind its opening bracket, on a bound for the depth of recursion.
* `charSet?`: the same for any text.
-/
import UsbPipe.Pattern.Escape

namespace UsbPipe.Pattern

open Text

/-- The names of sets of ASCII. -/
def setNames : List String :=
  ["alnum", "alpha", "ascii", "blank", "cntrl", "digit", "graph", "lower", "print", "punct",
    "space", "upper", "word", "xdigit"]

/-- A name between colons and its closing bracket. -/
def setName? (negated : Bool) (cs : List Char) : Option (SetItem × List Char) :=
  let name := cs.takeWhile (· ≠ ':')
  match cs.dropWhile (· ≠ ':') with
  | ':' :: ']' :: rest =>
    if setNames.contains (String.ofList name) then some (.named negated name, rest) else none
  | _ => none

/-- A set with a name, behind its opening bracket. -/
def namedSet? : List Char → Option (SetItem × List Char)
  | ':' :: '^' :: rest => setName? true rest
  | ':' :: rest => setName? false rest
  | _ => none

/-- One character of a set, or what an escape stands for. -/
def setElement? (verbose : Bool) : List Char → Option (Leaf × List Char)
  | [] => none
  | '\\' :: rest => escape? verbose rest
  | c :: rest => some (.literal (.plain c), rest)

/-- The item that is not the start of a range; edges are none. -/
def SetItem.ofLeaf? : Leaf → Option SetItem
  | .literal l => some (.literal l)
  | .shorthand negated kind => some (.shorthand negated kind)
  | _ => none

/-- The range between two characters, of which the second is not the lower. -/
def SetItem.range? : Leaf → Leaf → Option SetItem
  | .literal low, .literal high => if low.char ≤ high.char then some (.range low high) else none
  | _, _ => none

/-- The character that tells whether a dash in front of the text makes a range.  In a verbose
pattern blanks and the sign of a comment are passed over, but not what the comment says. -/
def peek? (verbose : Bool) (cs : List Char) : Option Char :=
  if verbose then
    match cs.dropWhile isBlank with
    | '#' :: rest => (rest.dropWhile isBlank).head?
    | rest => rest.head?
  else cs.head?

/-- A character, a shorthand, or two characters with a dash between.  A dash in front of a
bracket or of another dash makes no range. -/
def setRange? (verbose : Bool) (cs : List Char) : Option (SetItem × List Char) := do
  let (low, rest) ← setElement? verbose cs
  match gap verbose rest with
  | '-' :: more =>
    if peek? verbose more = some ']' ∨ peek? verbose more = some '-' then
      pure (← SetItem.ofLeaf? low, '-' :: more)
    else
      let (high, rest) ← setElement? verbose (gap verbose more)
      pure (← SetItem.range? low high, rest)
  | rest => pure (← SetItem.ofLeaf? low, rest)

/-- The dashes and blanks in front of a set, where dashes stand for themselves. -/
def leadingDashes (verbose : Bool) (done : List SetItem) : Nat → List Char →
    List SetItem × List Char
  | count + 1, '-' :: rest =>
    leadingDashes verbose (.literal (.plain '-') :: done) count (gap verbose rest)
  | _, cs => (done, cs)

/-- The items in front of a set that stand for themselves there: dashes, or without dashes a
closing bracket. -/
def leadingItems (verbose : Bool) (cs : List Char) : List SetItem × List Char :=
  match leadingDashes verbose [] cs.length cs with
  | ([], ']' :: rest) => ([.literal (.plain ']')], rest)
  | items => items

/-- A caret that negates a set, and the text after it. -/
def negation (verbose : Bool) : List Char → Bool × List Char
  | '^' :: rest => (true, gap verbose rest)
  | cs => (false, cs)

mutual

/-- The items of a set behind its opening bracket, and whether it is negated. -/
def set? (verbose : Bool) : Nat → List Char → Option ((Bool × List SetItem) × List Char)
  | 0, _ => none
  | fuel + 1, cs => do
    let (negated, cs) := negation verbose (gap verbose cs)
    let (done, cs) := leadingItems verbose cs
    let (items, rest) ← setItems? verbose fuel done cs
    pure ((negated, items), rest)

/-- The items of a set up to its closing bracket, after those `done`, of which the last is the
first. -/
def setItems? (verbose : Bool) : Nat → List SetItem → List Char →
    Option (List SetItem × List Char)
  | 0, _, _ => none
  | fuel + 1, done, cs =>
    match gap verbose cs with
    | ']' :: rest => some (done.reverse, rest)
    | '&' :: '&' :: rest => setItems? verbose fuel (.operator .intersection :: done) rest
    | '-' :: '-' :: rest => setItems? verbose fuel (.operator .difference :: done) rest
    | '~' :: '~' :: rest => setItems? verbose fuel (.operator .symmetricDifference :: done) rest
    | '[' :: rest =>
      match namedSet? rest with
      | some (item, rest) => setItems? verbose fuel (item :: done) rest
      | none => do
        let ((negated, items), rest) ← set? verbose fuel rest
        setItems? verbose fuel (.set negated items :: done) rest
    | rest => do
      let (item, rest) ← setRange? verbose rest
      setItems? verbose fuel (item :: done) rest

end

/-- A set behind its opening bracket.  A bracket costs two steps, so twice the length of the
text covers it. -/
def charSet? (verbose : Bool) (cs : List Char) : Option (Leaf × List Char) := do
  let ((negated, items), rest) ← set? verbose (2 * cs.length + 2) cs
  pure (.set negated items, rest)

end UsbPipe.Pattern
