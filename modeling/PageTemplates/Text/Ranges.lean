/-!
# Ranges of characters

Sets of characters as ascending lists of ranges, by which the tables of Unicode properties are written.
-/

namespace PageTemplates.Text

/-- Whether a number lies in one of the ranges. -/
def inRanges (ranges : List (Nat × Nat)) (n : Nat) : Bool :=
  ranges.any fun (low, high) => low ≤ n && n ≤ high

/-- Whether a number is one of the terms of a progression with the given first term, last term and step. -/
def inProgressions (progressions : List (Nat × Nat × Nat)) (n : Nat) : Bool :=
  progressions.any fun (low, high, step) => low ≤ n && n ≤ high && (n - low) % step == 0

end PageTemplates.Text
