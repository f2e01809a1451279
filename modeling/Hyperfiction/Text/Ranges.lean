import Hyperfiction.Text.Basic

/-!
# Ranges of code points

A class of characters is given by the ranges of code points that it holds.
-/

namespace Hyperfiction.Text

/-- Does a number lie in one of the ranges? Both ends belong to a range. -/
def inRanges (ranges : List (Nat × Nat)) (n : Nat) : Bool :=
  ranges.any fun r => decide (r.1 ≤ n) && decide (n ≤ r.2)

theorem inRanges_iff {ranges : List (Nat × Nat)} {n : Nat} :
    inRanges ranges n = true ↔ ∃ r ∈ ranges, r.1 ≤ n ∧ n ≤ r.2 := by
  simp [inRanges, Bool.and_eq_true]

end Hyperfiction.Text
