/-
Reading patterns.

* `flagChange?`, `name?`, `opening?`: what stands behind the parenthesis that opens a group.
* `leaf?`: a leaf.
* `branches?`, `sequence?`: the recursive grammar, on a bound for the depth of recursion.  A
  parenthesis costs two steps, so twice the length of the text covers it.
* `parse?`: the branches of a text that is a pattern.

The text of a pattern stands between braces, so no brace closes inside it, and one that opens a
count of repetitions is refused.
-/
import UsbPipe.Pattern.CharSet
import UsbPipe.Text.Alphabetic

namespace UsbPipe.Pattern

open Text

/-! ### Flags and names -/

/-- The letter of a flag. -/
def Flag.ofChar? (c : Char) : Option Flag :=
  if c = 'i' then some .ignoreCase
  else if c = 'm' then some .multiLine
  else if c = 's' then some .dotIsNewline
  else if c = 'U' then some .swapGreed
  else if c = 'u' then some .unicode
  else if c = 'R' then some .carriageReturn
  else if c = 'x' then some .verbose
  else none

/-- The end of a change of flags: a parenthesis, or a colon if a group follows. -/
def isFlagEnd (c : Char) : Bool := c == ')' || c == ':'

/-- Flags up to the end of their change, each at most once; those after a dash, of which there
is at least one, are turned off. -/
def flagChange? (on : Bool) (done : FlagChange) : List Char →
    Option (FlagChange × Char × List Char)
  | [] => none
  | c :: rest =>
    if isFlagEnd c then some (done, c, rest)
    else if c = '-' then
      if on && !(rest.head?.map isFlagEnd).getD true then flagChange? false done rest else none
    else do
      let f ← Flag.ofChar? c
      if done.any (·.1 = f) then none else flagChange? on (done ++ [(f, on)]) rest

/-- Whether a name of a group may start with a character. -/
def startsName (c : Char) : Bool := c == '_' || isAlphabetic c

/-- Whether a name of a group may go on with a character. -/
def isNameChar (c : Char) : Bool :=
  c == '_' || c == '.' || c == '[' || c == ']' || isAlphanumeric c

/-- The name of a group and its closing angle. -/
def name? (cs : List Char) : Option (List Char × List Char) :=
  match cs.takeWhile (· ≠ '>'), cs.dropWhile (· ≠ '>') with
  | c :: name, _ :: rest =>
    if startsName c && name.all isNameChar then some (c :: name, rest) else none
  | _, _ => none

/-- What a parenthesis opens. -/
inductive Opening where
  /-- No group, but a change of flags. -/
  | flags (change : FlagChange)
  | group (head : GroupHead)

/-- The opening of a named group behind its opening angle. -/
def namedOpening? (cs : List Char) : Option (Opening × List Char) :=
  (name? cs).map fun (name, rest) => (.group ⟨some name, []⟩, rest)

/-- The opening of a group, or flags that stand alone, of which there is at least one. -/
def opening? : List Char → Option (Opening × List Char)
  | '?' :: 'P' :: '<' :: rest => namedOpening? rest
  | '?' :: '<' :: rest => namedOpening? rest
  | '?' :: rest => do
    let (change, last, rest) ← flagChange? true [] rest
    if last = ':' then pure (.group ⟨none, change⟩, rest)
    else if change.isEmpty then none
    else pure (.flags change, rest)
  | rest => some (.group {}, rest)

/-! ### Branches -/

/-- What is known at a place of a pattern: whether blanks and comments mean nothing, and the
names given to groups so far. -/
structure Scope where
  verbose : Bool := false
  names : List (List Char) := []

/-- The scope after a change of flags. -/
def Scope.apply (s : Scope) (change : FlagChange) : Scope :=
  { s with verbose := change.value .verbose s.verbose }

/-- The scope inside a group; no two groups have one name. -/
def Scope.enter? (s : Scope) (head : GroupHead) : Option Scope :=
  match head.name? with
  | none => some (s.apply head.flags)
  | some name =>
    if s.names.contains name then none
    else some { s.apply head.flags with names := name :: s.names }

/-- A leaf that starts with a character. -/
def leaf? (verbose : Bool) (c : Char) (rest : List Char) : Option (Leaf × List Char) :=
  if c = '\\' then escape? verbose rest
  else if c = '[' then charSet? verbose rest
  else if c = '.' then some (.anyChar, rest)
  else if c = '^' ∨ c = '$' then some (.edge, rest)
  else if c = '\x7b' then none
  else some (.literal (.plain c), rest)

/-- Repeats the last of the parts read so far, which comes first.  Neither nothing nor a change
of flags can be repeated. -/
def repeatLast? : List Pattern → Option (List Pattern)
  | [] => none
  | .flags _ :: _ => none
  | p :: done => some (.repeated p :: done)

/-- The text after the question mark that makes a repetition lazy. -/
def skipLazy : List Char → List Char
  | '?' :: rest => rest
  | cs => cs

mutual

/-- Branches up to a parenthesis that closes them, or up to the end. -/
def branches? : Nat → Scope → List Char → Option (List (List Pattern) × Scope × List Char)
  | 0, _, _ => none
  | fuel + 1, s, cs => do
    let (b, s, rest) ← sequence? fuel s [] cs
    match rest with
    | '|' :: rest =>
      let (bs, s, rest) ← branches? fuel s rest
      pure (b :: bs, s, rest)
    | rest => pure ([b], s, rest)

/-- The parts of a branch after those `done`, of which the last comes first. -/
def sequence? : Nat → Scope → List Pattern → List Char →
    Option (List Pattern × Scope × List Char)
  | 0, _, _, _ => none
  | fuel + 1, s, done, cs =>
    match gap s.verbose cs with
    | [] => some (done.reverse, s, [])
    | c :: rest =>
      if c = '|' ∨ c = ')' then some (done.reverse, s, c :: rest)
      else if c = '(' then do
        let (opening, rest) ← opening? (gap s.verbose rest)
        match opening with
        | .flags change => sequence? fuel (s.apply change) (.flags change :: done) rest
        | .group head =>
          let (branches, inner, rest) ← branches? fuel (← s.enter? head) rest
          match rest with
          | ')' :: rest =>
            sequence? fuel { s with names := inner.names } (.group head branches :: done) rest
          | _ => none
      else if c = '?' ∨ c = '*' ∨ c = '+' then do
        sequence? fuel s (← repeatLast? done) (skipLazy rest)
      else do
        let (l, rest) ← leaf? s.verbose c rest
        sequence? fuel s (.leaf l :: done) rest

end

/-- The branches of a text that is a pattern. -/
def parse? (cs : List Char) : Option (List (List Pattern)) :=
  match branches? (2 * cs.length + 2) {} cs with
  | some (branches, _, []) => some branches
  | _ => none

end UsbPipe.Pattern
