/-
Patterns that texts can be compared with.

* `PatternError`: what keeps a text from being such a pattern, with `message`.
* `check`: accepts a text that is a pattern, not too deep, all leaves of which have a meaning and
  none of which asks for the edges of words in the letters of all scripts.
-/
import UsbPipe.Pattern.Parser

namespace UsbPipe

/-- What is wrong with the text of a pattern. -/
inductive PatternError where
  | malformed
  | wideEdge
  deriving DecidableEq

/-- The failure in words. -/
def PatternError.message : PatternError → String
  | malformed => "error building NFA"
  | wideEdge =>
    "unsupported regex feature for DFAs: cannot build DFAs for regexes with Unicode word "
      ++ "boundaries; switch to ASCII word boundaries, or heuristically enable Unicode word "
      ++ "boundaries or use a different regex engine"

namespace Pattern

/-- The deepest nesting. -/
def maxDepth : Nat := 250

/-- Accepts the branches of a pattern. -/
def checkBranches (branches : List (List Pattern)) : Except PatternError Unit :=
  let tips := branchLeaves {} branches
  if branchesDepth branches ≤ maxDepth ∧ tips.all fun (m, l) => l.isAllowed m then
    if tips.any fun (m, l) => l.isWideEdge m then .error .wideEdge else .ok ()
  else .error .malformed

/-- Accepts the text of a pattern. -/
def check (cs : List Char) : Except PatternError Unit :=
  match parse? cs with
  | some branches => checkBranches branches
  | none => .error .malformed

end Pattern

end UsbPipe
