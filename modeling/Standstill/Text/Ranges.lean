/-!
# Ranges of code points

A set of characters given by closed ranges of code points.

Results:
* `inRanges_of_mem`: a code point between the ends of a range is in the set.
-/
namespace Standstill

/-- Whether a code point is in one of these ranges. -/
def inRanges (ranges : List (Nat × Nat)) (n : Nat) : Bool :=
  ranges.any fun r => decide (r.1 ≤ n) && decide (n ≤ r.2)

theorem inRanges_of_mem {ranges : List (Nat × Nat)} {n : Nat} {r : Nat × Nat} (hr : r ∈ ranges)
    (h : r.1 ≤ n ∧ n ≤ r.2) : inRanges ranges n = true :=
  List.any_eq_true.2 ⟨r, hr, by simpa using h⟩

end Standstill
