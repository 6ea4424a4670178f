/-
LIKE: a text matches a pattern as a whole. The pattern is set between anchors, in a group of its
own, and the anchored pattern is looked for in the text.
-/
import InstanceFilter.Pattern.Footprint
import InstanceFilter.Pattern.Meaning
import InstanceFilter.Pattern.Reader

namespace InstanceFilter.Pattern

/-- The expression of a pattern text, nothing if it is no pattern. -/
def compile? (caseInsensitive : Bool) (text : List Char) : Option Expr := do
  let tree ← Syntax.read? text
  let (e, _) ← tree.expr? (.initial caseInsensitive)
  return e

/-- A pattern text between anchors. -/
def anchored (pattern : List Char) : List Char :=
  "^(?:".toList ++ pattern ++ ")$".toList

/-- The expression of an anchored pattern whose size is within a limit. -/
def compileWithin? (limit : Nat) (caseInsensitive : Bool) (pattern : List Char) : Option Expr := do
  let e ← compile? caseInsensitive (anchored pattern)
  if e.fits limit then return e else none

/-- Whether a text is like a pattern; nothing if the pattern cannot be compiled. -/
def like? (limit : Nat) (caseInsensitive : Bool) (pattern text : String) : Option Bool :=
  (compileWithin? limit caseInsensitive pattern.toList).map fun e => e.occursIn text.toList.toArray

end InstanceFilter.Pattern
