/-!
# Ranges of code points

A class of characters is given by the closed ranges of its code points, and `Text.inRanges` says
whether a code point belongs to it.
-/

namespace RecordQuery.Text

/-- Whether a code point lies in one of some closed ranges. -/
def inRanges (ranges : List (Nat × Nat)) (n : Nat) : Bool :=
  ranges.any fun r => r.1 ≤ n && n ≤ r.2

theorem inRanges_of_mem {ranges : List (Nat × Nat)} {r : Nat × Nat} {n : Nat} (h : r ∈ ranges)
    (lo : r.1 ≤ n) (hi : n ≤ r.2) : inRanges ranges n = true :=
  List.any_eq_true.2 ⟨r, h, by simp [lo, hi]⟩

end RecordQuery.Text
