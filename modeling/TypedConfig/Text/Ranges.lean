/-!
Sets of characters given by ranges of code points.
-/

namespace TypedConfig.Text

/-- Whether a code point lies in one of the ranges, both ends included. -/
def inRanges (ranges : List (Nat × Nat)) (n : Nat) : Bool :=
  ranges.any fun (lo, hi) => lo ≤ n && n ≤ hi

end TypedConfig.Text
