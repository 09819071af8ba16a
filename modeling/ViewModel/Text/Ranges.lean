/-!
Sets of characters given as ascending ranges of code points.
-/

namespace ViewModel.Text

/-- Whether a code point lies in one of the ascending ranges. -/
def inRanges : List (Nat × Nat) → Nat → Bool
  | [], _ => false
  | (low, high) :: rest, n => if n < low then false else n ≤ high || inRanges rest n

theorem inRanges_cons_of_mem {low high n : Nat} {rest : List (Nat × Nat)} (h : low ≤ n)
    (h' : n ≤ high) : inRanges ((low, high) :: rest) n = true := by
  simp [inRanges, Nat.not_lt.mpr h, h']

end ViewModel.Text
