import Mathlib.Data.Nat.Cast.Order.Field
import ViewModel.Proofs.Number.Rounding

/-!
The shortest decimal of a double rounds to that double: every decimal that the search takes lies
in the rounding interval, and at seventeen digits the grid is finer than the interval is wide.
-/

namespace ViewModel

namespace Decimal

/-- Leaving out trailing zeros keeps the number. -/
theorem trim_value (c : Nat) (k : Int) : (trim c k).value = c * 10 ^ k := by
  fun_induction trim c k with
  | case1 c k h ih =>
    have hmul : c / 10 * 10 = c := Nat.div_mul_cancel (Nat.dvd_of_mod_eq_zero h.2)
    rw [ih]
    calc ((c / 10 : Nat) : ℚ) * 10 ^ (k + 1) = ((c / 10 * 10 : Nat) : ℚ) * 10 ^ k := by
          rw [zpow_add_one₀ (by norm_num)]; push_cast; ring
      _ = c * 10 ^ k := by rw [hmul]
  | case2 c k h => rfl

end Decimal

open Double

namespace RoundingInterval

section Ends

/-- The ends of the interval and the double itself, as numbers. -/
def lowEnd (i : RoundingInterval) : ℚ := i.low / i.unit

def highEnd (i : RoundingInterval) : ℚ := i.high / i.unit

def number (i : RoundingInterval) : ℚ := i.value / i.unit

variable {i : RoundingInterval} {k : Int} {c : Nat}

theorem place_eq : ((i.place k c).1 : ℚ) = c * 10 ^ k * i.unit * (i.place k c).2 := by
  have hne : (10 : ℚ) ^ (-k).toNat ≠ 0 := by positivity
  simp only [place, Nat.cast_mul, cast_tenTo, zpow_eq_div (show (10 : ℚ) ≠ 0 by norm_num) k]
  field_simp

theorem place_pos : (0 : ℚ) < (i.place k c).2 := Nat.cast_pos.mpr (Nat.pow_pos (by decide))

theorem mul_le_place_iff (hunit : 0 < i.unit) (a : Nat) :
    a * (i.place k c).2 ≤ (i.place k c).1 ↔ (a / i.unit : ℚ) ≤ c * 10 ^ k := by
  rw [← Nat.cast_le (α := ℚ), Nat.cast_mul, place_eq, mul_le_mul_iff_left₀ place_pos,
    div_le_iff₀ (Nat.cast_pos.mpr hunit)]

theorem place_le_mul_iff (hunit : 0 < i.unit) (a : Nat) :
    (i.place k c).1 ≤ a * (i.place k c).2 ↔ (c * 10 ^ k : ℚ) ≤ a / i.unit := by
  rw [← Nat.cast_le (α := ℚ), Nat.cast_mul, place_eq, mul_le_mul_iff_left₀ place_pos,
    le_div_iff₀ (Nat.cast_pos.mpr hunit)]

/-- The interval holds what its ends say. -/
theorem contains_iff (hunit : 0 < i.unit) :
    i.contains k c = true ↔ i.lowEnd ≤ c * 10 ^ k ∧ c * 10 ^ k ≤ i.highEnd ∧
      (i.closed = false → i.lowEnd < c * 10 ^ k ∧ c * 10 ^ k < i.highEnd) := by
  have hlow := mul_le_place_iff (k := k) (c := c) hunit i.low
  have hhigh := place_le_mul_iff (k := k) (c := c) hunit i.high
  have hlow' := place_le_mul_iff (k := k) (c := c) hunit i.low
  have hhigh' := mul_le_place_iff (k := k) (c := c) hunit i.high
  unfold contains lowEnd highEnd
  simp only
  cases i.closed
  · simp only [Bool.false_eq_true, if_false, Bool.and_eq_true, decide_eq_true_eq, forall_const,
      ← not_le, hlow', hhigh']
    grind
  · simp [hlow, hhigh]

end Ends

section Grid

variable {i : RoundingInterval} {k : Int} {c : Nat}

/-- The double lies between two neighbours on the grid. -/
theorem below_bounds (hunit : 0 < i.unit) (k : Int) :
    (i.below k : ℚ) * 10 ^ k ≤ i.number ∧ i.number < ((i.below k + 1 : Nat) : ℚ) * 10 ^ k := by
  have hunit' : (0 : ℚ) < i.unit := Nat.cast_pos.mpr hunit
  have hpos : (0 : ℚ) < 10 ^ k.toNat := by positivity
  have hpos' : (0 : ℚ) < 10 ^ (-k).toNat := by positivity
  have hden : 0 < tenTo k.toNat * i.unit := Nat.mul_pos (Nat.pow_pos (by decide)) hunit
  have hdiv : i.number = ((i.value * tenTo (-k).toNat : Nat) : ℚ) /
      ((tenTo k.toNat * i.unit : Nat) : ℚ) * 10 ^ k := by
    simp only [number, Nat.cast_mul, cast_tenTo, zpow_eq_div (show (10 : ℚ) ≠ 0 by norm_num) k]
    field_simp
  rw [hdiv]
  constructor
  · exact mul_le_mul_of_nonneg_right Nat.cast_div_le (ten_zpow_pos k).le
  · refine mul_lt_mul_of_pos_right ?_ (ten_zpow_pos k)
    rw [div_lt_iff₀ (Nat.cast_pos.mpr hden)]
    exact_mod_cast Nat.lt_mul_of_div_lt (Nat.lt_succ_self (i.below k)) hden

/-- A hit lies in the interval. -/
theorem contains_of_hit? (h : i.hit? k = some c) : i.contains k c = true := by
  unfold hit? at h
  dsimp only at h
  split at h <;> grind

/-- A grid finer than the interval has a hit. -/
theorem exists_hit? (hunit : 0 < i.unit) (hlow : i.lowEnd < i.number) (hhigh : i.number < i.highEnd)
    (hstep : (10 : ℚ) ^ k < i.highEnd - i.lowEnd) : ∃ c, i.hit? k = some c := by
  obtain ⟨hbelow, habove⟩ := below_bounds hunit k
  have hcontains : i.contains k (i.below k) = true ∨ i.contains k (i.below k + 1) = true := by
    rw [contains_iff hunit, contains_iff hunit]
    push_cast at habove ⊢
    rcases lt_or_ge i.lowEnd (i.below k * 10 ^ k) with h | h
    · exact .inl ⟨h.le, by linarith, fun _ => ⟨h, by linarith⟩⟩
    · exact .inr ⟨by linarith, by linarith, fun _ => ⟨by linarith, by linarith⟩⟩
  unfold hit?
  dsimp only
  split <;> simp_all

/-- The search ends at the first of its grids that has a hit, if there is one. -/
theorem search_first (top : Int) {n tries : Nat}
    (h : ∃ j c, n ≤ j ∧ j < n + tries ∧ i.hit? (top - j) = some c) :
    ∃ (j c : Nat), n ≤ j ∧ j < n + tries ∧ i.hit? (top - j) = some c ∧
      (∀ l, n ≤ l → l < j → i.hit? (top - l) = none) ∧
      i.search top n tries = Decimal.trim c (top - j) := by
  induction tries generalizing n with
  | zero =>
    obtain ⟨j, -, hn, hj, -⟩ := h
    omega
  | succ tries ih =>
    rw [search]
    split
    next c hc => exact ⟨n, c, le_rfl, by omega, hc, fun l hl hl' => absurd hl (by omega), rfl⟩
    next hnone =>
      have hlater : ∃ j c, n + 1 ≤ j ∧ j < n + 1 + tries ∧ i.hit? (top - j) = some c := by
        obtain ⟨j, c, hn, hj, hc⟩ := h
        refine ⟨j, c, ?_, by omega, hc⟩
        rcases Nat.lt_or_eq_of_le hn with hlt | rfl
        · exact hlt
        · simp [hnone] at hc
      obtain ⟨j, c, hn, hj, hc, hbefore, hsearch⟩ := ih hlater
      refine ⟨j, c, by omega, by omega, hc, fun l hl hl' => ?_, hsearch⟩
      rcases Nat.lt_or_eq_of_le hl with hlt | rfl
      · exact hbefore l hlt hl'
      · exact hnone

end Grid

section OfFinite

variable {m : Nat} {e : Int}

theorem unit_pos (m : Nat) (e : Int) : 0 < (ofFinite m e).unit := Nat.pow_pos (by decide)

/-- A quarter of the last place. -/
theorem quarter_eq (e : Int) : (twoTo (e - 2).toNat : ℚ) / twoTo (2 - e).toNat = 2 ^ e / 4 := by
  rw [cast_twoTo, cast_twoTo, show (2 - e).toNat = (-(e - 2)).toNat by omega,
    ← zpow_eq_div two_ne_zero, zpow_sub₀ two_ne_zero]
  norm_num

theorem number_ofFinite (m : Nat) (e : Int) : (ofFinite m e).number = m * 2 ^ e := by
  have hquarter := quarter_eq e
  simp only [number, ofFinite, Nat.cast_mul, mul_div_assoc, hquarter]
  push_cast
  ring

theorem highEnd_ofFinite (m : Nat) (e : Int) : (ofFinite m e).highEnd = Double.highEnd m e := by
  have hquarter := quarter_eq e
  simp only [highEnd, Double.highEnd, ofFinite, Nat.cast_mul, mul_div_assoc, hquarter]
  push_cast
  ring

theorem lowEnd_ofFinite (hm : 0 < m) (e : Int) :
    (ofFinite m e).lowEnd = Double.lowEnd m e := by
  have hquarter := quarter_eq e
  simp only [lowEnd, Double.lowEnd, ofFinite, Nat.cast_mul, mul_div_assoc, hquarter, gapBelow]
  split
  · rw [Nat.cast_sub (by omega)]
    push_cast
    ring
  · rw [Nat.cast_sub (by omega)]
    push_cast
    ring

/-- The interval of a double holds the decimals near it. -/
theorem contains_ofFinite_iff {k : Int} {c : Nat} (hm : 0 < m) :
    (ofFinite m e).contains k c = true ↔ Near m e (c * 10 ^ k) := by
  rw [contains_iff (unit_pos m e), lowEnd_ofFinite hm, highEnd_ofFinite]
  have hclosed : (ofFinite m e).closed = false ↔ m % 2 = 1 := by simp [ofFinite]
  rw [hclosed]
  exact ⟨fun ⟨hlow, hhigh, hodd⟩ => ⟨hlow, hhigh, hodd⟩,
    fun ⟨hlow, hhigh, hodd⟩ => ⟨hlow, hhigh, hodd⟩⟩

theorem lowEnd_lt_number (hm : 0 < m) (e : Int) :
    (ofFinite m e).lowEnd < (ofFinite m e).number := by
  obtain ⟨hgap, -⟩ := gapBelow_bounds m e
  rw [lowEnd_ofFinite hm, number_ofFinite]
  exact mul_lt_mul_of_pos_right (by linarith) (two_zpow_pos e)

theorem number_lt_highEnd (m : Nat) (e : Int) : (ofFinite m e).number < (ofFinite m e).highEnd := by
  rw [highEnd_ofFinite, number_ofFinite]
  exact mul_lt_mul_of_pos_right (by linarith) (two_zpow_pos e)

theorem ten_zpow_lt_number (hm : 0 < m) (hleast : -1074 ≤ e) :
    (10 : ℚ) ^ (-400 : Int) < (ofFinite m e).number := by
  refine (ten_zpow_lt_lowEnd hleast hm).trans ?_
  rw [← lowEnd_ofFinite hm]
  exact lowEnd_lt_number hm e

/-- The first digit of the double stands at the power of ten before its magnitude. -/
theorem magnitude_bounds (hm : 0 < m) (hleast : -1074 ≤ e) :
    (10 : ℚ) ^ ((ofFinite m e).magnitude - 1) ≤ (ofFinite m e).number ∧
      (ofFinite m e).number < 10 ^ (ofFinite m e).magnitude := by
  have hlarge := ten_zpow_lt_number hm hleast
  generalize hi : ofFinite m e = i at hlarge
  have hunit : (0 : ℚ) < i.unit := Nat.cast_pos.mpr (hi ▸ unit_pos m e)
  have hscaled : ((i.value * tenTo 400 : Nat) : ℚ) / i.unit = i.number * 10 ^ (400 : Int) := by
    rw [Nat.cast_mul, cast_tenTo, number, ← zpow_natCast]
    exact mul_div_right_comm _ _ _
  have hone : 0 < i.value * tenTo 400 / i.unit := by
    refine Nat.div_pos ?_ (Nat.cast_pos.mp hunit)
    rw [← Nat.cast_le (α := ℚ), ← one_le_div₀ hunit, hscaled]
    calc (1 : ℚ) = 10 ^ (-400 : Int) * 10 ^ (400 : Int) := by rw [← ten_zpow_add]; rfl
      _ ≤ i.number * 10 ^ (400 : Int) := mul_le_mul_of_nonneg_right hlarge.le (ten_zpow_pos _).le
  have hlow := (ten_zpow_le_cast hone).trans (Nat.cast_div_le.trans_eq hscaled)
  have hhigh : i.number * 10 ^ (400 : Int) <
      10 ^ ((Nat.toDigits 10 (i.value * tenTo 400 / i.unit)).length : Int) := by
    rw [← hscaled, div_lt_iff₀ hunit, zpow_natCast]
    exact_mod_cast Nat.lt_mul_of_div_lt
      ((Nat.length_toDigits_le_iff (by decide) Nat.length_toDigits_pos).mp le_rfl)
      (Nat.cast_pos.mp hunit)
  rw [magnitude]
  generalize (Nat.toDigits 10 (i.value * tenTo 400 / i.unit)).length = n at hlow hhigh ⊢
  have hshift (l : Int) : (10 : ℚ) ^ l * 10 ^ (-400 : Int) = 10 ^ (l - 400) :=
    (ten_zpow_add _ _).symm
  have hback : i.number = i.number * 10 ^ (400 : Int) * 10 ^ (-400 : Int) := by
    rw [mul_assoc, ← ten_zpow_add]
    exact (mul_one _).symm
  constructor
  · rw [hback, show (n : Int) - 400 - 1 = n - 1 - 400 by omega, ← hshift]
    exact mul_le_mul_of_nonneg_right hlow (ten_zpow_pos _).le
  · rw [hback, ← hshift]
    exact mul_lt_mul_of_pos_right hhigh (ten_zpow_pos _)

theorem width_eq (hm : 0 < m) (e : Int) :
    (ofFinite m e).highEnd - (ofFinite m e).lowEnd = (1 / 2 + gapBelow m e) * 2 ^ e := by
  rw [highEnd_ofFinite, lowEnd_ofFinite hm, Double.highEnd, Double.lowEnd]
  ring

/-- The width of the interval, in last places, against the seventeenth digit of a significand. -/
theorem seventeenth_lt_width (hm : m < twoTo 53) (e : Int) :
    (m : ℚ) / 10 ^ 16 < 1 / 2 + gapBelow m e := by
  have hm' : (m : ℚ) + 1 ≤ 2 ^ 53 := by exact_mod_cast (hm : m + 1 ≤ 2 ^ 53)
  unfold gapBelow
  split
  next h =>
    rw [h.1, cast_twoTo]
    norm_num
  next h =>
    rw [div_lt_iff₀ (by positivity)]
    linarith

/-- Seventeen digits tell a double from its neighbours. -/
theorem ten_zpow_lt_width (hcanonical : Canonical m e) (hm : 0 < m) :
    (10 : ℚ) ^ ((ofFinite m e).magnitude - 17) <
      (ofFinite m e).highEnd - (ofFinite m e).lowEnd := by
  have hfirst := (magnitude_bounds hm hcanonical.2.1).1
  rw [number_ofFinite] at hfirst
  calc (10 : ℚ) ^ ((ofFinite m e).magnitude - 17)
      = 10 ^ ((ofFinite m e).magnitude - 1) * 10 ^ (-16 : Int) := by
        rw [← ten_zpow_add]; congr 1; omega
    _ ≤ m * 2 ^ e * 10 ^ (-16 : Int) := mul_le_mul_of_nonneg_right hfirst (ten_zpow_pos _).le
    _ = m / 10 ^ 16 * 2 ^ e := by rw [zpow_neg]; exact mul_right_comm _ _ _
    _ < (1 / 2 + gapBelow m e) * 2 ^ e :=
        mul_lt_mul_of_pos_right (seventeenth_lt_width hcanonical.1 e) (two_zpow_pos e)
    _ = (ofFinite m e).highEnd - (ofFinite m e).lowEnd := (width_eq hm e).symm

end OfFinite

end RoundingInterval

/-- The shortest decimal is on the first grid that has a hit; if none before has one, the
seventeenth does. -/
theorem shortestDecimal_first {m : Nat} {e : Int} (hcanonical : Canonical m e) (hm : 0 < m) :
    ∃ n c : Nat, 1 ≤ n ∧ n ≤ 17 ∧
      (RoundingInterval.ofFinite m e).hit? ((RoundingInterval.ofFinite m e).magnitude - n) =
        some c ∧
      (∀ l : Nat, 1 ≤ l → l < n →
        (RoundingInterval.ofFinite m e).hit? ((RoundingInterval.ofFinite m e).magnitude - l) =
          none) ∧
      shortestDecimal m e = Decimal.trim c ((RoundingInterval.ofFinite m e).magnitude - n) := by
  rw [shortestDecimal, if_neg hm.ne']
  dsimp only
  obtain ⟨c, hc⟩ := RoundingInterval.exists_hit? (RoundingInterval.unit_pos m e)
    (RoundingInterval.lowEnd_lt_number hm e) (RoundingInterval.number_lt_highEnd m e)
    (RoundingInterval.ten_zpow_lt_width hcanonical hm)
  obtain ⟨n, c, hn, hlast, hfirst⟩ := RoundingInterval.search_first
    (RoundingInterval.ofFinite m e).magnitude
    ⟨17, c, show 1 ≤ 17 by decide, show 17 < 1 + 17 by decide, hc⟩
  exact ⟨n, c, hn, by omega, hfirst⟩

/-- The shortest decimal of a double is near it. -/
theorem near_shortestDecimal {m : Nat} {e : Int} (hcanonical : Canonical m e) (hm : 0 < m) :
    Near m e (shortestDecimal m e).value := by
  obtain ⟨n, c, -, -, hhit, -, hshortest⟩ := shortestDecimal_first hcanonical hm
  rw [hshortest, Decimal.trim_value]
  exact (RoundingInterval.contains_ofFinite_iff hm).mp (RoundingInterval.contains_of_hit? hhit)

end ViewModel
