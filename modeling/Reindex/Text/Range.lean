/-!
# Ranges of code points

A property of characters that follows no short rule is given by the ranges of code points that have
it, in increasing order.
-/

namespace Reindex.Text

/-- The number lies in one of the ranges, ends included. -/
def inRanges (ranges : List (Nat × Nat)) (n : Nat) : Bool :=
  ranges.any fun r => r.1 ≤ n && n ≤ r.2

end Reindex.Text
