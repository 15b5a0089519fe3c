/-!
# Sets of code points

A property of characters is given by the ranges of code points that have it. The ranges are closed,
apart from each other and in ascending order, so a search can stop at the first one that starts
above the code point in question.
-/

namespace ScanSchema.Text

/-- Whether a code point lies in one of some ascending ranges. -/
def inRanges (code : Nat) : List (Nat × Nat) → Bool
  | [] => false
  | (first, last) :: rest => first ≤ code && (code ≤ last || inRanges code rest)

end ScanSchema.Text
