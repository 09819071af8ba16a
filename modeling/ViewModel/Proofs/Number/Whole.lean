import Mathlib.Data.Nat.Log
import ViewModel.Number.Double

/-!
Whole numbers as doubles. Up to `2 ^ 53` every whole number is a double.
-/

namespace ViewModel.Double

/-- The double nearest to a whole number. -/
def ofInt (n : Int) : Double := ofQuotient (n < 0) n.natAbs 1

/-- A whole number is a double. -/
def Exact (n : Int) : Prop := (ofInt n).position? = some (.ofInt n)

instance (n : Int) : Decidable (Exact n) :=
  inferInstanceAs (Decidable ((ofInt n).position? = some (.ofInt n)))

theorem roundHalfEven_one (n : Nat) : roundHalfEven n 1 = n := by
  simp [roundHalfEven, Nat.mod_one]

theorem twoTo_add (a b : Nat) : twoTo (a + b) = twoTo a * twoTo b := Nat.pow_add 2 a b

theorem scaled_one {n : Nat} {e : Int} (he : e ≤ 0) :
    scaled n 1 e = (n * twoTo (-e).toNat, 1) := by
  unfold scaled
  split
  · obtain rfl : e = 0 := by omega
    simp [twoTo]
  · rfl

variable {n : Nat}

/-- Scaling a number of at most 53 bits to the exponent that it gets fills all of them. -/
theorem scaled_bounds (hpos : n ≠ 0) (hn : n < twoTo 53) :
    twoTo 52 ≤ n * twoTo (52 - n.log2) ∧ n * twoTo (52 - n.log2) < twoTo 53 := by
  have hlog : n.log2 < 53 := (Nat.log2_lt hpos).mpr hn
  constructor
  · calc twoTo 52 = twoTo n.log2 * twoTo (52 - n.log2) := by rw [← twoTo_add]; congr 1; omega
      _ ≤ n * twoTo (52 - n.log2) := Nat.mul_le_mul_right _ (Nat.log2_self_le hpos)
  · calc n * twoTo (52 - n.log2) < twoTo (n.log2 + 1) * twoTo (52 - n.log2) :=
          Nat.mul_lt_mul_of_pos_right Nat.lt_log2_self (Nat.pow_pos (by decide))
      _ = twoTo 53 := by rw [← twoTo_add]; congr 1; omega

theorem exponentOf_one (hpos : n ≠ 0) (hn : n < twoTo 53) :
    exponentOf n 1 = (n.log2 : Int) - 52 := by
  have hlog : n.log2 < 53 := (Nat.log2_lt hpos).mpr hn
  have hone : (Nat.log2 1 : Int) = 0 := by decide
  obtain ⟨hlow, -⟩ := scaled_bounds hpos hn
  have hsplit : (-((n.log2 : Int) - 53)).toNat = 52 - n.log2 + 1 := by omega
  have hfits : ¬ n * twoTo (52 - n.log2 + 1) / 1 < twoTo 53 := by
    rw [twoTo_add, ← Nat.mul_assoc, Nat.div_one, Nat.not_lt, show 53 = 52 + 1 from rfl, twoTo_add]
    exact Nat.mul_le_mul_right _ hlow
  unfold exponentOf
  simp only [hone, Int.sub_zero]
  rw [scaled_one (by omega), hsplit, if_neg hfits]
  omega

/-- A whole number of at most 53 bits is a double. -/
theorem position?_ofQuotient {negative : Bool} (hpos : n ≠ 0) (hn : n < twoTo 53) :
    (ofQuotient negative n 1).position? = some (.units (signed negative (n * twoTo 1074))) := by
  have hlog : n.log2 < 53 := (Nat.log2_lt hpos).mpr hn
  obtain ⟨hlow, hhigh⟩ := scaled_bounds hpos hn
  have hdigits : (-((n.log2 : Int) - 52)).toNat = 52 - n.log2 := by omega
  have hcanonical : Canonical (n * twoTo (52 - n.log2)) ((n.log2 : Int) - 52) :=
    ⟨hhigh, by omega, by omega, .inl hlow⟩
  have hvalue : n * twoTo (52 - n.log2) * twoTo ((n.log2 : Int) - 52 + 1074).toNat =
      n * twoTo 1074 := by
    rw [Nat.mul_assoc, ← twoTo_add]
    congr 2
    omega
  rw [ofQuotient, if_neg hpos]
  simp only [exponentOf_one hpos hn, scaled_one (show (n.log2 : Int) - 52 ≤ 0 by omega),
    hdigits, roundHalfEven_one]
  rw [if_neg (Nat.ne_of_lt hhigh), pack, dif_pos hcanonical, position?, hvalue]

/-- Every whole number up to `2 ^ 53` is a double. -/
theorem exact_of_le {n : Int} (hn : n.natAbs ≤ twoTo 53) : Exact n := by
  rcases Nat.lt_or_eq_of_le hn with hlt | heq
  · by_cases hzero : n.natAbs = 0
    · obtain rfl := Int.natAbs_eq_zero.mp hzero
      decide +kernel
    rw [Exact, ofInt, position?_ofQuotient hzero hlt, Position.ofInt, signed]
    congr 2
    split
    next hneg =>
      rw [Int.natCast_mul, Int.ofNat_natAbs_of_nonpos (Int.le_of_lt (of_decide_eq_true hneg)),
        Int.neg_mul, Int.neg_neg]
    next hneg =>
      rw [Int.natCast_mul, Int.natAbs_of_nonneg (by simpa using hneg)]
  · rcases Int.natAbs_eq_iff.mp heq with rfl | rfl
    · decide +kernel
    · decide +kernel

end ViewModel.Double
