namespace IpBlocks

/-!
# Ranges of code points

A class of characters is given by the ranges of code points that make it up,
each range with both of its ends and the ranges in ascending order.
-/

namespace Text

/-- Whether the code point of a character lies in one of some ranges. -/
def inRanges (ranges : List (Nat × Nat)) (character : Char) : Bool :=
  ranges.any fun (first, last) =>
    first ≤ character.toNat && character.toNat ≤ last

/-- A character lies in some ranges exactly if one of them surrounds it. -/
theorem inRanges_eq_true_iff
    {ranges : List (Nat × Nat)}
    {character : Char} :
    inRanges ranges character = true ↔
      ∃ range ∈ ranges,
        range.1 ≤ character.toNat ∧ character.toNat ≤ range.2 := by
  simp [inRanges]

/-- The ranges of two lists in a row hold what either of them holds. -/
theorem inRanges_append
    (one other : List (Nat × Nat))
    (character : Char) :
    inRanges (one ++ other) character =
      (inRanges one character || inRanges other character) := by
  simp [inRanges]

end Text

end IpBlocks
