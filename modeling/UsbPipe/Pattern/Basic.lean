/-
Patterns of text.

A pattern is a choice between branches, a branch is a sequence of parts, and a part is a leaf,
a change of flags, a part to be repeated, or a group of branches.

* `Pattern`, `Pattern.Leaf`, `Pattern.SetItem`: the tree of a pattern, what stands at its tips,
  and what stands in a set of characters.
* `Pattern.Flag`, `Pattern.Mode`: the switches of a pattern, and what of them decides which
  leaves may stand at a place.
* `branchesDepth`: how deep a pattern is nested.
* `branchLeaves`: the leaves of a pattern, each with the mode it stands in.
* `Leaf.isAllowed`, `Leaf.isWideEdge`: the leaves that have a meaning in a mode, and those that
  need a table of all letters.
-/

namespace UsbPipe

namespace Pattern

/-! ### Leaves -/

/-- A character that stands for itself. -/
structure Literal where
  char : Char
  /-- Whether two hexadecimal digits wrote it, as they write a byte. -/
  isByte : Bool
  deriving DecidableEq

/-- A character of the pattern itself. -/
def Literal.plain (c : Char) : Literal := ⟨c, false⟩

/-- Whether the character is one of ASCII. -/
def Literal.isAscii (l : Literal) : Bool := l.char.toNat < 0x80

/-- How the sets on both sides of an operator make one set. -/
inductive SetOperator where
  | intersection
  | difference
  | symmetricDifference
  deriving DecidableEq

/-- What stands between the brackets of a set.  Items side by side are united; an operator
stands between the two unions that it joins. -/
inductive SetItem where
  | literal (l : Literal)
  | range (low high : Literal)
  /-- Digits, blanks or word characters, named by a letter. -/
  | shorthand (negated : Bool) (kind : Char)
  /-- Characters of ASCII, named by a word. -/
  | named (negated : Bool) (name : List Char)
  | operator (o : SetOperator)
  | set (negated : Bool) (items : List SetItem)

/-- What stands at the tips of a pattern. -/
inductive Leaf where
  | literal (l : Literal)
  | anyChar
  /-- The start or the end of a line or of the text. -/
  | edge
  /-- A place where a word starts or ends, or one where none does. -/
  | wordEdge
  /-- Digits, blanks or word characters, named by a letter. -/
  | shorthand (negated : Bool) (kind : Char)
  | set (negated : Bool) (items : List SetItem)

/-! ### Flags -/

/-- The switches of a pattern. -/
inductive Flag where
  | ignoreCase
  | multiLine
  | dotIsNewline
  | swapGreed
  | unicode
  | carriageReturn
  | verbose
  deriving DecidableEq

/-- Flags to turn on or off; each occurs at most once. -/
abbrev FlagChange : Type := List (Flag × Bool)

/-- What a change makes of a switch that is `on`. -/
def FlagChange.value (change : FlagChange) (f : Flag) (on : Bool) : Bool :=
  (change.find? (·.1 = f)).elim on Prod.snd

/-- How characters are compared. -/
structure Mode where
  ignoresCase : Bool := false
  /-- Whether by characters and not by bytes. -/
  isUnicode : Bool := true
  deriving DecidableEq

/-- The mode after a change of flags. -/
def Mode.apply (m : Mode) (change : FlagChange) : Mode :=
  ⟨change.value .ignoreCase m.ignoresCase, change.value .unicode m.isUnicode⟩

/-- What opens a group: the name of its text, if it has one, and the flags inside. -/
structure GroupHead where
  name? : Option (List Char) := none
  flags : FlagChange := []

end Pattern

/-- A part of a pattern.  A change of flags holds up to the end of the group it stands in. -/
inductive Pattern where
  | leaf (l : Pattern.Leaf)
  | flags (change : Pattern.FlagChange)
  | repeated (p : Pattern)
  | group (head : Pattern.GroupHead) (branches : List (List Pattern))

namespace Pattern

/-! ### Depth -/

/-- Things that stand side by side: how many, and how deep the deepest of them is. -/
structure Row where
  size : Nat := 0
  deepest : Nat := 0

/-- One more thing in a row. -/
def Row.push (r : Row) (depth : Nat) : Row := ⟨r.size + 1, max r.deepest depth⟩

/-- Several things side by side are one level more than the deepest of them. -/
def Row.depth (r : Row) : Nat := if r.size ≤ 1 then r.deepest else r.deepest + 1

/-- An operator is one level more than the deeper of its sides. -/
def joinedDepth (left? : Option Nat) (right : Nat) : Nat :=
  left?.elim right fun left => max left right + 1

mutual

/-- How deep an item of a set is nested. -/
def SetItem.depth : SetItem → Nat
  | .set _ items => itemsDepth none {} items + 1
  | .literal _ | .range _ _ | .shorthand _ _ | .named _ _ | .operator _ => 0

/-- How deep a set is nested, after an operator with a left side and a row of items. -/
def itemsDepth (left? : Option Nat) (row : Row) : List SetItem → Nat
  | [] => joinedDepth left? row.depth
  | .operator _ :: items => itemsDepth (some (joinedDepth left? row.depth)) {} items
  | item :: items => itemsDepth left? (row.push item.depth) items

end

/-- How deep a leaf is nested. -/
def Leaf.depth : Leaf → Nat
  | set negated items => (SetItem.set negated items).depth
  | _ => 0

mutual

/-- How deep a part of a pattern is nested. -/
def depth : Pattern → Nat
  | .leaf l => l.depth
  | .flags _ => 0
  | .repeated p => p.depth + 1
  | .group _ branches => (branchesRow {} branches).depth + 1

/-- The parts of a branch as a row. -/
def sequenceRow (row : Row) : List Pattern → Row
  | [] => row
  | p :: ps => sequenceRow (row.push p.depth) ps

/-- The branches of a pattern as a row. -/
def branchesRow (row : Row) : List (List Pattern) → Row
  | [] => row
  | b :: bs => branchesRow (row.push (sequenceRow {} b).depth) bs

end

/-- How deep a pattern is nested. -/
def branchesDepth (branches : List (List Pattern)) : Nat := (branchesRow {} branches).depth

/-! ### Leaves and their modes -/

/-- The mode behind a part. -/
def modeAfter (m : Mode) : Pattern → Mode
  | .flags change => m.apply change
  | _ => m

mutual

/-- The leaves of a part that starts in a mode, each with the mode it stands in. -/
def leaves (m : Mode) : Pattern → List (Mode × Leaf)
  | .leaf l => [(m, l)]
  | .flags _ => []
  | .repeated p => p.leaves m
  | .group head branches => branchLeaves (m.apply head.flags) branches

/-- The leaves of a branch. -/
def sequenceLeaves (m : Mode) : List Pattern → List (Mode × Leaf)
  | [] => []
  | p :: ps => p.leaves m ++ sequenceLeaves (p.modeAfter m) ps

/-- The leaves of branches; flags that a branch changes stay changed in the next. -/
def branchLeaves (m : Mode) : List (List Pattern) → List (Mode × Leaf)
  | [] => []
  | b :: bs => sequenceLeaves m b ++ branchLeaves (b.foldl modeAfter m) bs

end

/-! ### Leaves with a meaning -/

/-- Whether a character may stand in a set.  Letters beyond ASCII are no bytes, and there is no
table of letters to compare without case. -/
def Literal.isAllowedInSet (m : Mode) (l : Literal) : Bool :=
  if m.isUnicode then !m.ignoresCase else l.isAscii

mutual

/-- Whether an item may stand in a set.  There is no table of digits, blanks and word characters
beyond ASCII, and what is left of the bytes without some of ASCII is no text. -/
def SetItem.isAllowed (m : Mode) : SetItem → Bool
  | .literal l => l.isAllowedInSet m
  | .range low high => low.isAllowedInSet m && high.isAllowedInSet m
  | .shorthand negated _ => !m.isUnicode && !negated
  | .named negated _ => if m.isUnicode then !m.ignoresCase else !negated
  | .operator _ => true
  | .set negated items => (m.isUnicode || !negated) && itemsAllowed m items

/-- Whether all items may stand in a set. -/
def itemsAllowed (m : Mode) : List SetItem → Bool
  | [] => true
  | item :: items => item.isAllowed m && itemsAllowed m items

end

/-- Whether a leaf may stand where it does. -/
def Leaf.isAllowed (m : Mode) : Leaf → Bool
  | literal l => if m.isUnicode then !m.ignoresCase else l.isAscii || !l.isByte
  | anyChar => m.isUnicode
  | edge | wordEdge => true
  | shorthand negated kind => (SetItem.shorthand negated kind).isAllowed m
  | set negated items => (SetItem.set negated items).isAllowed m

/-- Whether a leaf is an edge of words in the letters of all scripts. -/
def Leaf.isWideEdge (m : Mode) : Leaf → Bool
  | wordEdge => m.isUnicode
  | _ => false

end Pattern

end UsbPipe
