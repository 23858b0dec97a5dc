namespace IpBlocks

/-!
# Depth of patterns

A pattern is nested no deeper than a fixed depth. A character has depth zero;
a group, a class in brackets and a repetition lie one above what they hold. A
row of parts lies one above the deepest of them, unless it holds only one.
-/

namespace Pattern

/-- The greatest depth of a pattern. -/
def greatestDepth : Nat :=
  250

/-- The depth of a row from the depths of its parts, in any order. -/
def rowDepth : List Nat → Nat
  | [] => 0
  | [depth] => depth
  | depths => depths.foldl max 0 + 1

end Pattern

end IpBlocks
