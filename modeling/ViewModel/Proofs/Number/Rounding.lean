import Mathlib.Algebra.Order.Field.Power
import Mathlib.Data.Nat.Log
import Mathlib.Data.Rat.Cast.Order
import Mathlib.Tactic.FieldSimp
import Mathlib.Tactic.Linarith
import Mathlib.Tactic.NormNum
import Mathlib.Tactic.Positivity
import Mathlib.Tactic.Ring
import ViewModel.Number.Decimal
import ViewModel.Proofs.Number.Whole

/-!
Rounding to the nearest double, over the rationals. The numbers between the midpoints to a
double's two neighbours round to that double; the midpoints themselves do if its significand is
even. Below a power of two the neighbour is half as far, so the number is first taken to the finer
exponent and comes back with one more bit.
-/

namespace ViewModel

/-- The number that a decimal stands for. -/
def Decimal.value (d : Decimal) : ℚ := d.coefficient * 10 ^ d.exponent

namespace Double

theorem cast_twoTo (n : Nat) : (twoTo n : ℚ) = 2 ^ n := Nat.cast_pow 2 n

theorem cast_tenTo (n : Nat) : (tenTo n : ℚ) = 10 ^ n := Nat.cast_pow 10 n

/-- How far the midpoint below `m * 2 ^ e` is, in its last places. -/
def gapBelow (m : Nat) (e : Int) : ℚ := if m = twoTo 52 ∧ -1074 < e then 1 / 4 else 1 / 2

def lowEnd (m : Nat) (e : Int) : ℚ := (m - gapBelow m e) * 2 ^ e

def highEnd (m : Nat) (e : Int) : ℚ := (m + 1 / 2) * 2 ^ e

/-- No double is nearer to `x` than `m * 2 ^ e`, and of two that are as near it is the even one. -/
structure Near (m : Nat) (e : Int) (x : ℚ) : Prop where
  low : lowEnd m e ≤ x
  high : x ≤ highEnd m e
  odd : m % 2 = 1 → lowEnd m e < x ∧ x < highEnd m e

theorem gapBelow_bounds (m : Nat) (e : Int) : 1 / 4 ≤ gapBelow m e ∧ gapBelow m e ≤ 1 / 2 := by
  unfold gapBelow
  split <;> norm_num

section Powers

theorem two_zpow_pos (e : Int) : (0 : ℚ) < 2 ^ e := zpow_pos two_pos e

theorem two_zpow_add (a b : Int) : (2 : ℚ) ^ (a + b) = 2 ^ a * 2 ^ b := zpow_add₀ two_ne_zero a b

theorem two_zpow_le {a b : Int} (h : a ≤ b) : (2 : ℚ) ^ a ≤ 2 ^ b :=
  zpow_le_zpow_right₀ one_le_two h

theorem ten_zpow_pos (k : Int) : (0 : ℚ) < 10 ^ k := zpow_pos (by norm_num) k

theorem ten_zpow_add (a b : Int) : (10 : ℚ) ^ (a + b) = 10 ^ a * 10 ^ b :=
  zpow_add₀ (by norm_num) a b

theorem ten_zpow_le {a b : Int} (h : a ≤ b) : (10 : ℚ) ^ a ≤ 10 ^ b :=
  zpow_le_zpow_right₀ (by norm_num) h

/-- A power as a fraction of two powers of natural exponent, one of which is one. -/
theorem zpow_eq_div {a : ℚ} (ha : a ≠ 0) (k : Int) : a ^ k = a ^ k.toNat / a ^ (-k).toNat := by
  rw [eq_div_iff (pow_ne_zero _ ha), ← zpow_natCast, ← zpow_natCast, ← zpow_add₀ ha]
  congr 1
  omega

end Powers

section Scaled

variable {num den : Nat}

theorem scaled_den_pos (hden : 0 < den) (e : Int) : 0 < (scaled num den e).2 := by
  unfold scaled
  split
  · exact Nat.mul_pos hden (Nat.pow_pos two_pos)
  · exact hden

theorem scaled_value (e : Int) :
    ((scaled num den e).1 : ℚ) / (scaled num den e).2 = num / den / 2 ^ e := by
  rw [zpow_eq_div two_ne_zero e]
  unfold scaled
  split
  next he =>
    rw [show (-e).toNat = 0 by omega]
    simp only [Nat.cast_mul, cast_twoTo]
    field_simp
  next he =>
    rw [show e.toNat = 0 by omega]
    simp only [Nat.cast_mul, cast_twoTo]
    field_simp

end Scaled

section Exponent

variable {num den : Nat}

theorem log2_bounds {n : Nat} (hn : 0 < n) :
    (2 : ℚ) ^ (n.log2 : Int) ≤ n ∧ (n : ℚ) < 2 ^ ((n.log2 : Int) + 1) := by
  constructor
  · rw [zpow_natCast]
    exact_mod_cast Nat.log2_self_le hn.ne'
  · rw [← Nat.cast_succ, zpow_natCast]
    exact_mod_cast Nat.lt_log2_self

/-- The guess is right or one too low. -/
theorem guess_bounds (hnum : 0 < num) (hden : 0 < den) :
    (2 : ℚ) ^ ((num.log2 : Int) - den.log2 - 53 + 52) < num / den ∧
      (num / den : ℚ) < 2 ^ ((num.log2 : Int) - den.log2 - 53 + 54) := by
  obtain ⟨hn, hn'⟩ := log2_bounds hnum
  obtain ⟨hd, hd'⟩ := log2_bounds hden
  have hpos : (0 : ℚ) < den := Nat.cast_pos.mpr hden
  constructor
  · rw [lt_div_iff₀ hpos]
    calc (2 : ℚ) ^ ((num.log2 : Int) - den.log2 - 53 + 52) * den
        < 2 ^ ((num.log2 : Int) - den.log2 - 53 + 52) * 2 ^ ((den.log2 : Int) + 1) :=
          mul_lt_mul_of_pos_left hd' (two_zpow_pos _)
      _ = 2 ^ (num.log2 : Int) := by rw [← two_zpow_add]; congr 1; omega
      _ ≤ num := hn
  · rw [div_lt_iff₀ hpos]
    calc (num : ℚ) < 2 ^ ((num.log2 : Int) + 1) := hn'
      _ = 2 ^ ((num.log2 : Int) - den.log2 - 53 + 54) * 2 ^ (den.log2 : Int) := by
          rw [← two_zpow_add]; congr 1; omega
      _ ≤ 2 ^ ((num.log2 : Int) - den.log2 - 53 + 54) * den :=
          mul_le_mul_of_nonneg_left hd (two_zpow_pos _).le

theorem scaled_div_lt_iff (hden : 0 < den) (e : Int) :
    (scaled num den e).1 / (scaled num den e).2 < twoTo 53 ↔ (num / den : ℚ) < 2 ^ (e + 53) := by
  have hpos : 0 < (scaled num den e).2 := scaled_den_pos hden e
  have hpos' : (0 : ℚ) < (scaled num den e).2 := Nat.cast_pos.mpr hpos
  rw [Nat.div_lt_iff_lt_mul hpos, add_comm, two_zpow_add, ← div_lt_iff₀ (two_zpow_pos e),
    ← scaled_value, div_lt_iff₀ hpos', ← Nat.cast_lt (α := ℚ), Nat.cast_mul, cast_twoTo]
  rfl

/-- Above the least exponent the number has 53 bits before its point. -/
theorem exponentOf_bounds (hnum : 0 < num) (hden : 0 < den) :
    -1074 ≤ exponentOf num den ∧ (num / den : ℚ) < 2 ^ (exponentOf num den + 53) ∧
      (2 ^ (exponentOf num den + 52) ≤ (num / den : ℚ) ∨ exponentOf num den = -1074) := by
  obtain ⟨hlow, hhigh⟩ := guess_bounds hnum hden
  unfold exponentOf
  generalize (num.log2 : Int) - den.log2 - 53 = guess at hlow hhigh ⊢
  simp only [scaled_div_lt_iff hden]
  obtain ⟨e, he, hbelow, habove⟩ : ∃ e : Int,
      e = (if (num / den : ℚ) < 2 ^ (guess + 53) then guess else guess + 1) ∧
        (num / den : ℚ) < 2 ^ (e + 53) ∧ (2 : ℚ) ^ (e + 52) ≤ num / den := by
    split
    next h => exact ⟨guess, rfl, h, hlow.le⟩
    next h =>
      refine ⟨guess + 1, rfl, ?_, ?_⟩
      · rwa [add_assoc]
      · rw [add_assoc]
        exact not_lt.mp h
  rw [← he]
  refine ⟨le_max_left _ _, hbelow.trans_le (two_zpow_le (by omega)), ?_⟩
  rcases le_total (-1074) e with h | h
  · left
    rwa [max_eq_right h]
  · exact .inr (max_eq_left h)

/-- There is one exponent with these bounds. -/
theorem exponentOf_eq {e : Int} (hnum : 0 < num) (hden : 0 < den) (he : -1074 ≤ e)
    (hbelow : (num / den : ℚ) < 2 ^ (e + 53))
    (habove : 2 ^ (e + 52) ≤ (num / den : ℚ) ∨ e = -1074) : exponentOf num den = e := by
  obtain ⟨he', hbelow', habove'⟩ := exponentOf_bounds hnum hden
  -- of two exponents the greater one is not the least exponent, so the number fills its bits
  have hle : ∀ {a b : Int}, -1074 ≤ b → (num / den : ℚ) < 2 ^ (b + 53) →
      (2 ^ (a + 52) ≤ (num / den : ℚ) ∨ a = -1074) → a ≤ b := by
    intro a b hb hlt hor
    rcases hor with hge | rfl
    · by_contra hab
      exact absurd (hge.trans_lt hlt) (not_lt.mpr (two_zpow_le (by omega)))
    · exact hb
  exact le_antisymm (hle he hbelow habove') (hle he' hbelow' habove)

end Exponent

section Half

variable {num den m : Nat}

/-- A number is rounded to `m` from at most one half away, from just one half if `m` is even. -/
theorem roundHalfEven_eq (hden : 0 < den) (hlow : (m : ℚ) - 1 / 2 ≤ num / den)
    (hhigh : (num / den : ℚ) ≤ m + 1 / 2)
    (hodd : m % 2 = 1 → (m : ℚ) - 1 / 2 < num / den ∧ (num / den : ℚ) < m + 1 / 2) :
    roundHalfEven num den = m := by
  have hpos : (0 : ℚ) < den := Nat.cast_pos.mpr hden
  have hl : 2 * (m * den) ≤ 2 * num + den := by
    rw [le_div_iff₀ hpos] at hlow
    exact_mod_cast show (2 * (m * den) : ℚ) ≤ 2 * num + den by linarith
  have hh : 2 * num ≤ 2 * (m * den) + den := by
    rw [div_le_iff₀ hpos] at hhigh
    exact_mod_cast show (2 * num : ℚ) ≤ 2 * (m * den) + den by linarith
  have ho : m % 2 = 1 → 2 * (m * den) < 2 * num + den ∧ 2 * num < 2 * (m * den) + den := by
    intro h
    obtain ⟨h, h'⟩ := hodd h
    rw [lt_div_iff₀ hpos] at h
    rw [div_lt_iff₀ hpos] at h'
    constructor
    · exact_mod_cast show (2 * (m * den) : ℚ) < 2 * num + den by linarith
    · exact_mod_cast show (2 * num : ℚ) < 2 * (m * den) + den by linarith
  have hdiv := Nat.div_add_mod num den
  have hmod := Nat.mod_lt num hden
  unfold roundHalfEven
  dsimp only
  generalize num / den = q at *
  generalize num % den = r at *
  -- the quotient rounded down is `m` or one less
  obtain rfl | rfl : m = q ∨ m = q + 1 := by
    have hle : m < q + 2 := by
      by_contra h
      have := Nat.mul_le_mul_right den (not_lt.mp h)
      nlinarith
    have hge : q < m + 1 := by
      by_contra h
      have := Nat.mul_le_mul_right den (not_lt.mp h)
      nlinarith
    omega
  · rw [Nat.mul_comm den m] at hdiv
    rw [if_neg]
    omega
  · rw [Nat.mul_comm den q] at hdiv
    rw [Nat.add_mul, Nat.one_mul] at hl hh ho
    rw [if_pos]
    omega

end Half

section Nearest

variable {num den m : Nat} {e : Int}

theorem Near.pos {x : ℚ} (h : Near m e x) (hm : 0 < m) : 0 < x := by
  obtain ⟨-, hgap⟩ := gapBelow_bounds m e
  have hm' : (1 : ℚ) ≤ m := by exact_mod_cast hm
  refine lt_of_lt_of_le ?_ h.low
  exact mul_pos (by linarith) (two_zpow_pos e)

/-- In last places of `m * 2 ^ e` a number near it is at most one half away. -/
theorem Near.round_eq (hden : 0 < den) (h : Near m e (num / den)) :
    roundHalfEven (scaled num den e).1 (scaled num den e).2 = m := by
  obtain ⟨-, hgap⟩ := gapBelow_bounds m e
  have hpow := two_zpow_pos e
  obtain ⟨hlow, hhigh, hodd⟩ := h
  simp only [lowEnd, highEnd, ← le_div_iff₀ hpow, ← div_le_iff₀ hpow, ← lt_div_iff₀ hpow,
    ← div_lt_iff₀ hpow, ← scaled_value] at hlow hhigh hodd
  refine roundHalfEven_eq (scaled_den_pos hden e) (by linarith) hhigh fun h => ?_
  obtain ⟨hlow, hhigh⟩ := hodd h
  exact ⟨by linarith, hhigh⟩

/-- Of the doubles with all bits only the power of two has numbers near it that are smaller. -/
theorem Near.eq_of_lt {x : ℚ} (hm : twoTo 52 ≤ m) (h : Near m e x) (hlt : x < 2 ^ (e + 52)) :
    m = twoTo 52 := by
  by_contra hne
  have hlarge : (2 : ℚ) ^ 52 + 1 ≤ m := by
    exact_mod_cast Nat.lt_of_le_of_ne hm (Ne.symm hne)
  obtain ⟨-, hgap⟩ := gapBelow_bounds m e
  have hbits : (2 : ℚ) ^ (52 : Int) < m - gapBelow m e :=
    lt_of_lt_of_le (lt_add_of_pos_right (2 ^ 52) one_half_pos) (by linarith)
  have hgreater : (2 : ℚ) ^ (e + 52) < lowEnd m e := by
    rw [add_comm, two_zpow_add]
    exact mul_lt_mul_of_pos_right hbits (two_zpow_pos e)
  exact absurd h.low (not_le.mpr (hlt.trans hgreater))

/-- Below a power of two, numbers near it are rounded up to it: they have all bits set. -/
theorem Near.round_eq_of_lt (hden : 0 < den) (he : -1074 < e)
    (h : Near (twoTo 52) e (num / den)) (hlt : (num / den : ℚ) < 2 ^ (e + 52)) :
    (2 : ℚ) ^ (e - 1 + 52) ≤ num / den ∧
      roundHalfEven (scaled num den (e - 1)).1 (scaled num den (e - 1)).2 = twoTo 53 := by
  have hpow := two_zpow_pos (e - 1)
  have hdouble : (2 : ℚ) ^ e = 2 ^ (e - 1) * 2 := by
    rw [← zpow_add_one₀ two_ne_zero, sub_add_cancel]
  have hlow := h.low
  rw [lowEnd, gapBelow, if_pos ⟨rfl, he⟩, cast_twoTo, hdouble] at hlow
  rw [two_zpow_add, hdouble] at hlt
  have hbits : (2 : ℚ) ^ (52 : Int) = 2 ^ 52 := rfl
  rw [hbits] at hlt
  constructor
  · rw [two_zpow_add, hbits]
    linarith
  · refine roundHalfEven_eq (scaled_den_pos hden _) ?_ ?_ (fun h => absurd h (by decide))
    · rw [scaled_value, le_div_iff₀ hpow, cast_twoTo]
      linarith
    · rw [scaled_value, div_le_iff₀ hpow, cast_twoTo]
      linarith

/-- `m * 2 ^ e` is the double nearest to the numbers near it. -/
theorem ofQuotient_eq (negative : Bool) (hcanonical : Canonical m e) (hm : 0 < m) (hden : 0 < den)
    (h : Near m e (num / den)) : ofQuotient negative num den = finite negative m e hcanonical := by
  obtain ⟨hlt, hleast, -, hfull⟩ := id hcanonical
  have hnum : 0 < num := by
    rcases Nat.eq_zero_or_pos num with rfl | hpos
    · exact absurd (h.pos hm) (by simp)
    · exact hpos
  have hm53 : (m : ℚ) + 1 ≤ 2 ^ 53 := by exact_mod_cast (hlt : m + 1 ≤ 2 ^ 53)
  have hbelow : (num / den : ℚ) < 2 ^ (e + 53) := by
    refine h.high.trans_lt ?_
    rw [add_comm, two_zpow_add]
    exact mul_lt_mul_of_pos_right (lt_of_lt_of_le (by linarith) hm53) (two_zpow_pos e)
  rw [ofQuotient, if_neg hnum.ne']
  by_cases habove : 2 ^ (e + 52) ≤ (num / den : ℚ) ∨ e = -1074
  · simp only [exponentOf_eq hnum hden hleast hbelow habove, h.round_eq hden]
    rw [if_neg (Nat.ne_of_lt hlt), pack, dif_pos hcanonical]
  · rw [not_or, not_le] at habove
    obtain rfl := h.eq_of_lt (hfull.resolve_right habove.2) habove.1
    obtain ⟨habove', hround⟩ := h.round_eq_of_lt hden (by omega) habove.1
    have hexponent : exponentOf num den = e - 1 :=
      exponentOf_eq hnum hden (by omega) (by rw [show e - 1 + 53 = e + 52 by omega]; exact habove.1)
        (.inl habove')
    simp only [hexponent, hround]
    rw [if_pos trivial, sub_add_cancel, pack, dif_pos hcanonical]

end Nearest

section Decimal

variable {m c : Nat} {e k : Int}

theorem cast_lt_ten_zpow (c : Nat) : (c : ℚ) < 10 ^ ((Nat.toDigits 10 c).length : Int) := by
  rw [zpow_natCast]
  have hlt : c < 10 ^ (Nat.toDigits 10 c).length :=
    (Nat.length_toDigits_le_iff (by decide) Nat.length_toDigits_pos).mp (Nat.le_refl _)
  exact_mod_cast hlt

theorem ten_zpow_le_cast (hc : 0 < c) :
    (10 : ℚ) ^ ((Nat.toDigits 10 c).length - 1 : Int) ≤ c := by
  have hpos : 0 < (Nat.toDigits 10 c).length := Nat.length_toDigits_pos
  generalize hlength : (Nat.toDigits 10 c).length = n at hpos
  obtain ⟨n, rfl⟩ := Nat.exists_eq_add_of_lt hpos
  have hle : 10 ^ n ≤ c := by
    rcases Nat.eq_zero_or_pos n with rfl | hn
    · exact hc
    · by_contra h
      have := (Nat.length_toDigits_le_iff (by decide) hn).mpr (not_le.mp h)
      omega
  rw [show ((0 + n + 1 : Nat) - 1 : Int) = n by omega, zpow_natCast]
  exact_mod_cast hle

/-- The range of doubles, and the half of the least one, lie between these powers of ten. -/
theorem two_zpow_lt_ten_zpow : (2 : ℚ) ^ (1075 : Int) < 10 ^ (400 : Int) := by
  have h : twoTo 1075 < tenTo 400 := by decide +kernel
  rw [← Nat.cast_lt (α := ℚ), cast_twoTo, cast_tenTo, ← zpow_natCast, ← zpow_natCast] at h
  exact h

theorem ten_zpow_lt_lowEnd (hleast : -1074 ≤ e) (hm : 0 < m) :
    (10 : ℚ) ^ (-400 : Int) < lowEnd m e := by
  obtain ⟨-, hgap⟩ := gapBelow_bounds m e
  have hm' : (1 : ℚ) ≤ m := by exact_mod_cast hm
  calc (10 : ℚ) ^ (-400 : Int) < 2 ^ (-1075 : Int) := by
        rw [zpow_neg, zpow_neg]
        exact (inv_lt_inv₀ (ten_zpow_pos _) (two_zpow_pos _)).mpr two_zpow_lt_ten_zpow
    _ ≤ 2 ^ (-1 + e) := two_zpow_le (by omega)
    _ = 1 / 2 * 2 ^ e := by rw [two_zpow_add]; norm_num
    _ ≤ (m - gapBelow m e) * 2 ^ e :=
        mul_le_mul_of_nonneg_right (by linarith) (two_zpow_pos e).le

theorem highEnd_lt_ten_zpow (hmost : e ≤ 971) (hm : m < twoTo 53) :
    highEnd m e < (10 : ℚ) ^ (400 : Int) := by
  have hm' : (m : ℚ) + 1 ≤ 2 ^ 53 := by exact_mod_cast (hm : m + 1 ≤ 2 ^ 53)
  calc ((m : ℚ) + 1 / 2) * 2 ^ e ≤ 2 ^ (53 : Int) * 2 ^ e :=
        mul_le_mul_of_nonneg_right (le_trans (by linarith) hm') (two_zpow_pos e).le
    _ = 2 ^ (53 + e) := (two_zpow_add _ _).symm
    _ ≤ 2 ^ (1075 : Int) := two_zpow_le (by omega)
    _ < 10 ^ (400 : Int) := two_zpow_lt_ten_zpow

/-- A number whose digits start beyond the range of doubles is near none. -/
theorem Near.magnitude_bounds (hcanonical : Canonical m e) (hm : 0 < m)
    (h : Near m e (c * 10 ^ k)) :
    -400 ≤ k + (Nat.toDigits 10 c).length ∧ k + (Nat.toDigits 10 c).length ≤ 400 := by
  obtain ⟨hlt, hleast, hmost, -⟩ := hcanonical
  have hc : 0 < c := by
    rcases Nat.eq_zero_or_pos c with rfl | hpos
    · exact absurd (h.pos hm) (by simp)
    · exact hpos
  have hpow := ten_zpow_pos k
  constructor
  · by_contra hsmall
    have : (c : ℚ) * 10 ^ k < 10 ^ (-400 : Int) := by
      calc (c : ℚ) * 10 ^ k < 10 ^ ((Nat.toDigits 10 c).length : Int) * 10 ^ k :=
            mul_lt_mul_of_pos_right (cast_lt_ten_zpow c) hpow
        _ = 10 ^ ((Nat.toDigits 10 c).length + k : Int) := (ten_zpow_add _ _).symm
        _ ≤ 10 ^ (-400 : Int) := ten_zpow_le (by omega)
    exact absurd (h.low.trans_lt this) (not_lt.mpr (ten_zpow_lt_lowEnd hleast hm).le)
  · by_contra hlarge
    have : (10 : ℚ) ^ (400 : Int) ≤ c * 10 ^ k := by
      calc (10 : ℚ) ^ (400 : Int) ≤ 10 ^ ((Nat.toDigits 10 c).length - 1 + k : Int) :=
            ten_zpow_le (by omega)
        _ = 10 ^ ((Nat.toDigits 10 c).length - 1 : Int) * 10 ^ k := ten_zpow_add _ _
        _ ≤ c * 10 ^ k := mul_le_mul_of_nonneg_right (ten_zpow_le_cast hc) hpow.le
    exact absurd (this.trans h.high) (not_le.mpr (highEnd_lt_ten_zpow hmost hlt))

/-- Decimals near a double are read as that double. -/
theorem ofDecimal_eq (negative : Bool) (hcanonical : Canonical m e) (hm : 0 < m)
    (h : Near m e (c * 10 ^ k)) : ofDecimal negative c k = finite negative m e hcanonical := by
  obtain ⟨hleast, hmost⟩ := h.magnitude_bounds hcanonical hm
  have hc : c ≠ 0 := by
    rintro rfl
    exact absurd (h.pos hm) (by simp)
  rw [ofDecimal, if_neg hc, if_neg (not_lt.mpr hmost), if_neg (not_lt.mpr hleast)]
  rw [zpow_eq_div (by norm_num) k] at h
  split
  next hk =>
    rw [show (-k).toNat = 0 by omega] at h
    refine ofQuotient_eq negative hcanonical hm one_pos ?_
    rw [Nat.cast_mul, cast_tenTo]
    simpa using h
  next hk =>
    rw [show k.toNat = 0 by omega] at h
    refine ofQuotient_eq negative hcanonical hm (Nat.pow_pos (by decide)) ?_
    rw [cast_tenTo]
    simpa [div_eq_mul_inv] using h

end Decimal

end Double

end ViewModel
