import ViewModel.Proofs.Number.Numeral

/-!
Decimals that identify a double. A decimal is read as the double that it is near, and as no other
one. Of the decimals that are read as a number, the shortest one has the fewest digits; among those
it is nearest to the number, and of two that are as near it is the even one. There is at most one.
-/

namespace ViewModel

namespace Double

section Reading

variable {num den m c : Nat} {e k : Int} {negative : Bool}

/-- Rounding moves a number by at most one half, and by one half only to an even one. -/
theorem roundHalfEven_bounds (num : Nat) (hden : 0 < den) :
    (roundHalfEven num den : ℚ) - 1 / 2 ≤ num / den ∧
      (num / den : ℚ) ≤ roundHalfEven num den + 1 / 2 ∧
      (roundHalfEven num den % 2 = 1 → (roundHalfEven num den : ℚ) - 1 / 2 < num / den ∧
        (num / den : ℚ) < roundHalfEven num den + 1 / 2) := by
  have hpos : (0 : ℚ) < den := Nat.cast_pos.mpr hden
  have hmod := Nat.mod_lt num hden
  have hdiv : (num / den : ℚ) = (num / den : Nat) + (num % den : Nat) / den := by
    rw [div_eq_iff hpos.ne', add_mul, div_mul_cancel₀ _ hpos.ne']
    exact_mod_cast (Nat.div_add_mod' num den).symm
  have hrest : (0 : ℚ) ≤ (num % den : Nat) / den := by positivity
  rw [hdiv]
  unfold roundHalfEven
  dsimp only
  generalize num / den = q
  generalize num % den = r at *
  split
  next hup =>
    have hhalf : (1 : ℚ) / 2 ≤ r / den ∧ (q % 2 = 0 → (1 : ℚ) / 2 < r / den) := by
      constructor
      · rw [le_div_iff₀ hpos]
        have : (den : ℚ) ≤ 2 * r := by exact_mod_cast show den ≤ 2 * r by omega
        linarith
      · intro heven
        rw [lt_div_iff₀ hpos]
        have : (den : ℚ) < 2 * r := by exact_mod_cast show den < 2 * r by omega
        linarith
    have hless : (r : ℚ) / den < 1 := (div_lt_one hpos).mpr (by exact_mod_cast hmod)
    push_cast
    refine ⟨by linarith, by linarith, fun hodd => ?_⟩
    have := hhalf.2 (by omega)
    exact ⟨by linarith, by linarith⟩
  next hdown =>
    have hhalf : (r : ℚ) / den ≤ 1 / 2 ∧ (q % 2 = 1 → (r : ℚ) / den < 1 / 2) := by
      constructor
      · rw [div_le_iff₀ hpos]
        have : (2 * r : ℚ) ≤ den := by exact_mod_cast show 2 * r ≤ den by omega
        linarith
      · intro hodd
        rw [div_lt_iff₀ hpos]
        have : (2 * r : ℚ) < den := by exact_mod_cast show 2 * r < den by omega
        linarith
    refine ⟨by linarith, by linarith, fun hodd => ?_⟩
    have := hhalf.2 hodd
    exact ⟨by linarith, by linarith⟩

theorem pack_eq_finite {n : Nat} {f : Int} {hcanonical : Canonical m e}
    (h : pack negative n f = finite negative m e hcanonical) : n = m ∧ f = e := by
  unfold pack at h
  split at h
  · exact ⟨(finite.inj h).2.1, (finite.inj h).2.2⟩
  · cases h

/-- A quotient is near the double that it is rounded to. -/
theorem near_of_ofQuotient {hcanonical : Canonical m e} (hm : 0 < m) (hden : 0 < den)
    (h : ofQuotient negative num den = finite negative m e hcanonical) : Near m e (num / den) := by
  unfold ofQuotient at h
  split at h
  · exact absurd (finite.inj h).2.1 hm.ne
  next hnum =>
    obtain ⟨hleast, -, habove⟩ := exponentOf_bounds (Nat.pos_of_ne_zero hnum) hden
    dsimp only at h
    generalize exponentOf num den = f at h hleast habove
    have hscaled : 0 < (scaled num den f).2 := scaled_den_pos hden f
    obtain ⟨hlow, hhigh, hodd⟩ := roundHalfEven_bounds (scaled num den f).1 hscaled
    generalize roundHalfEven (scaled num den f).1 (scaled num den f).2 = n at h hlow hhigh hodd
    have hpow := two_zpow_pos f
    simp only [scaled_value, le_div_iff₀ hpow, div_le_iff₀ hpow, lt_div_iff₀ hpow,
      div_lt_iff₀ hpow] at hlow hhigh hodd
    split at h
    next hcarry =>
      -- the last place has doubled, and the number is even
      obtain ⟨rfl, rfl⟩ := pack_eq_finite h
      subst hcarry
      have hdouble : (2 : ℚ) ^ (f + 1) = 2 ^ f * 2 := zpow_add_one₀ two_ne_zero f
      simp only [cast_twoTo] at hlow hhigh
      refine ⟨?_, ?_, fun hone => absurd hone (by decide)⟩
      · rw [lowEnd, gapBelow, if_pos ⟨rfl, by omega⟩, hdouble, cast_twoTo]
        linarith
      · rw [highEnd, hdouble, cast_twoTo]
        linarith
    next =>
      obtain ⟨rfl, rfl⟩ := pack_eq_finite h
      have hgap : gapBelow n f = 1 / 2 ∨ n = twoTo 52 ∧ -1074 < f := by
        unfold gapBelow
        split
        next hpower => exact .inr hpower
        · exact .inl rfl
      rcases hgap with hgap | ⟨rfl, hf⟩
      · refine ⟨?_, hhigh, fun hone => ?_⟩
        · rwa [lowEnd, hgap]
        · rw [lowEnd, hgap]
          exact hodd hone
      · refine ⟨?_, hhigh, fun hone => absurd hone (by decide)⟩
        have hfull := habove.resolve_right hf.ne'
        rw [add_comm, two_zpow_add] at hfull
        obtain ⟨hquarter, -⟩ := gapBelow_bounds (twoTo 52) f
        refine le_trans ?_ hfull
        rw [lowEnd, cast_twoTo]
        exact mul_le_mul_of_nonneg_right (show (2 : ℚ) ^ 52 - _ ≤ 2 ^ 52 by linarith) hpow.le

/-- A decimal is read as a double if and only if it is near it. -/
theorem ofDecimal_eq_iff {hcanonical : Canonical m e} (hm : 0 < m) :
    ofDecimal negative c k = finite negative m e hcanonical ↔ Near m e (c * 10 ^ k) := by
  refine ⟨fun h => ?_, ofDecimal_eq negative hcanonical hm⟩
  unfold ofDecimal at h
  dsimp only at h
  split at h
  · exact absurd (finite.inj h).2.1 hm.ne
  split at h
  · cases h
  split at h
  · exact absurd (finite.inj h).2.1 hm.ne
  rw [zpow_eq_div (by norm_num) k]
  split at h
  next hk =>
    have hnear := near_of_ofQuotient hm one_pos h
    rw [Nat.cast_mul, cast_tenTo, Nat.cast_one, div_one] at hnear
    rwa [show (-k).toNat = 0 by omega, pow_zero, div_one]
  next hk =>
    have hnear := near_of_ofQuotient hm (Nat.pow_pos (by decide)) h
    rw [Nat.cast_pow] at hnear
    rwa [show k.toNat = 0 by omega, pow_zero, mul_one_div]

end Reading

section Interval

variable {m : Nat} {e : Int} {x y z : ℚ}

theorem near_self (m : Nat) (e : Int) : Near m e (m * 2 ^ e) := by
  obtain ⟨hquarter, -⟩ := gapBelow_bounds m e
  have hpow := two_zpow_pos e
  have hlow : lowEnd m e < m * 2 ^ e := mul_lt_mul_of_pos_right (by linarith) hpow
  have hhigh : m * 2 ^ e < highEnd m e := mul_lt_mul_of_pos_right (by linarith) hpow
  exact ⟨hlow.le, hhigh.le, fun _ => ⟨hlow, hhigh⟩⟩

/-- What lies between two numbers near a double is near it. -/
theorem Near.between (hx : Near m e x) (hz : Near m e z) (hxy : x ≤ y) (hyz : y ≤ z) :
    Near m e y :=
  ⟨hx.low.trans hxy, hyz.trans hz.high, fun hodd =>
    ⟨(hx.odd hodd).1.trans_le hxy, hyz.trans_lt (hz.odd hodd).2⟩⟩

/-- Where the last place is a fraction or one, the only whole number near a double is itself. -/
theorem Near.eq_of_whole {n : Nat} (he : e ≤ 0) (h : Near m e n) : (n : ℚ) = m * 2 ^ e := by
  obtain ⟨-, hgap⟩ := gapBelow_bounds m e
  have hpow := two_zpow_pos e
  have hplaces : (n : ℚ) / 2 ^ e = (n * 2 ^ (-e).toNat : Nat) := by
    rw [zpow_eq_div two_ne_zero, show e.toNat = 0 by omega]
    push_cast
    simp
  have hlow := h.low
  have hhigh := h.high
  rw [lowEnd, ← le_div_iff₀ hpow, hplaces] at hlow
  rw [highEnd, ← div_le_iff₀ hpow, hplaces] at hhigh
  rw [← div_eq_iff hpow.ne', hplaces]
  generalize n * 2 ^ (-e).toNat = t at hlow hhigh
  have hle : (t : ℚ) < m + 1 := by linarith
  have hge : (m : ℚ) < t + 1 := by linarith
  have hle' : t < m + 1 := by exact_mod_cast hle
  have hge' : m < t + 1 := by exact_mod_cast hge
  rw [show t = m by omega]

end Interval

end Double

open Double

namespace Decimal

variable {d d' : Decimal} {m : Nat} {e t : Int} {h : Canonical m e}

/-- Reading the decimal gives this number. -/
def Identifies (d : Decimal) (x : Double) : Prop :=
  Double.ofDecimal false d.coefficient d.exponent = x

/-- How far the decimal is from `m * 2 ^ e`. -/
def distance (d : Decimal) (m : Nat) (e : Int) : ℚ := |d.value - m * 2 ^ e|

/-- The decimal whose digits stand for the number `m * 2 ^ e`. -/
structure IsShortest (d : Decimal) (m : Nat) (e : Int) (h : Canonical m e) : Prop where
  identifies : d.Identifies (finite false m e h)
  fewest : ∀ d' : Decimal, d'.Identifies (finite false m e h) →
    d.digits.length ≤ d'.digits.length
  nearest : ∀ d' : Decimal, d'.Identifies (finite false m e h) →
    d'.digits.length = d.digits.length → d.distance m e ≤ d'.distance m e
  even : ∀ d' : Decimal, d'.Identifies (finite false m e h) →
    d'.digits.length = d.digits.length → d'.distance m e = d.distance m e → d'.value ≠ d.value →
    d.coefficient % 2 = 0

theorem identifies_iff (hm : 0 < m) :
    d.Identifies (finite false m e h) ↔ Near m e d.value := ofDecimal_eq_iff hm

section Magnitude

/-- A decimal lies between the powers of ten around its first digit. -/
theorem value_bounds (hd : 0 < d.coefficient) :
    (10 : ℚ) ^ d.leading ≤ d.value ∧ d.value < 10 ^ (d.leading + 1) := by
  have hpow := ten_zpow_pos d.exponent
  rw [leading, value, digits]
  constructor
  · calc (10 : ℚ) ^ (d.exponent + (Nat.toDigits 10 d.coefficient).length - 1)
        = 10 ^ ((Nat.toDigits 10 d.coefficient).length - 1 : Int) * 10 ^ d.exponent := by
          rw [← ten_zpow_add]; congr 1; omega
      _ ≤ d.coefficient * 10 ^ d.exponent :=
          mul_le_mul_of_nonneg_right (ten_zpow_le_cast hd) hpow.le
  · calc d.coefficient * (10 : ℚ) ^ d.exponent
        < 10 ^ ((Nat.toDigits 10 d.coefficient).length : Int) * 10 ^ d.exponent :=
          mul_lt_mul_of_pos_right (cast_lt_ten_zpow d.coefficient) hpow
      _ = 10 ^ (d.exponent + (Nat.toDigits 10 d.coefficient).length - 1 + 1) := by
          rw [← ten_zpow_add]; congr 1; omega

theorem length_digits_pos (d : Decimal) : 0 < d.digits.length := Nat.length_toDigits_pos

theorem leading_le_iff (hd : 0 < d.coefficient) : t ≤ d.leading ↔ (10 : ℚ) ^ t ≤ d.value := by
  obtain ⟨hlow, hhigh⟩ := value_bounds hd
  refine ⟨fun hle => (ten_zpow_le hle).trans hlow, fun hle => ?_⟩
  by_contra hlt
  exact absurd (hle.trans_lt hhigh) (not_lt.mpr (ten_zpow_le (by omega)))

theorem value_of_nonneg (hexponent : 0 ≤ d.exponent) :
    d.value = (d.coefficient * 10 ^ d.exponent.toNat : Nat) := by
  rw [value, zpow_eq_div (by norm_num), show (-d.exponent).toNat = 0 by omega]
  simp

theorem value_one (t : Int) : (⟨1, t⟩ : Decimal).value = 10 ^ t := by simp [value]

/-- A power of ten has one digit. -/
theorem digits_one (t : Int) : (⟨1, t⟩ : Decimal).digits = ['1'] :=
  Nat.toDigits_of_lt_base (show 1 < 10 by decide)

/-- Decimals of one value and one length are equal. -/
theorem eq_of_value (hd : 0 < d.coefficient) (hlength : d'.digits.length = d.digits.length)
    (hvalue : d'.value = d.value) : d' = d := by
  have hd' : 0 < d'.coefficient := by
    refine Nat.pos_of_ne_zero fun hzero => ?_
    have hpos := (ten_zpow_pos _).trans_le (value_bounds hd).1
    rw [← hvalue, value, hzero] at hpos
    simp at hpos
  have hleading : d'.leading = d.leading :=
    le_antisymm ((leading_le_iff hd).mpr (hvalue ▸ (leading_le_iff hd').mp le_rfl))
      ((leading_le_iff hd').mpr (hvalue ▸ (leading_le_iff hd).mp le_rfl))
  have hexponent : d'.exponent = d.exponent := by
    rw [leading, leading, hlength] at hleading
    omega
  have hcoefficient : d'.coefficient = d.coefficient := by
    rw [value, value, hexponent] at hvalue
    exact_mod_cast mul_right_cancel₀ (ten_zpow_pos d.exponent).ne' hvalue
  cases d; cases d'; simp_all

/-- Right above an even decimal there is another one that is no longer, and that is still below any
greater even one of this length. -/
theorem exists_between (hd : 0 < d.coefficient) (hd' : 0 < d'.coefficient)
    (hlength : d'.digits.length = d.digits.length) (hlt : d.value < d'.value)
    (heven : d.coefficient % 2 = 0) (heven' : d'.coefficient % 2 = 0) :
    ∃ b : Decimal, d.value < b.value ∧ b.value < d'.value ∧
      b.digits.length ≤ d.digits.length := by
  have hpos := d.length_digits_pos
  have hpow := ten_zpow_pos d.exponent
  have hbound : d.coefficient + 1 < 10 ^ d.digits.length := by
    have hcoefficient : d.coefficient < 10 ^ d.digits.length :=
      (Nat.length_toDigits_le_iff (by decide) hpos).mp le_rfl
    have hten : 10 ^ d.digits.length % 2 = 0 := by
      rw [Nat.pow_mod, Nat.zero_pow hpos, Nat.zero_mod]
    omega
  refine ⟨⟨d.coefficient + 1, d.exponent⟩, ?_, ?_,
    (Nat.length_toDigits_le_iff (by decide) hpos).mpr hbound⟩
  · exact mul_lt_mul_of_pos_right (by exact_mod_cast Nat.lt_succ_self _) hpow
  · rcases lt_trichotomy d.exponent d'.exponent with hless | heq | hgreater
    · -- what lies below the next power of ten lies below the greater decimal
      calc ((d.coefficient + 1 : Nat) : ℚ) * 10 ^ d.exponent
          < 10 ^ (d.digits.length : Int) * 10 ^ d.exponent := by
            refine mul_lt_mul_of_pos_right ?_ hpow
            rw [zpow_natCast]
            exact_mod_cast hbound
        _ = 10 ^ (d.digits.length + d.exponent) := (ten_zpow_add _ _).symm
        _ ≤ 10 ^ d'.leading := ten_zpow_le (by rw [leading, hlength]; omega)
        _ ≤ d'.value := (value_bounds hd').1
    · rw [value, value, ← heq] at hlt ⊢
      have hcoefficients : d.coefficient < d'.coefficient := by
        exact_mod_cast lt_of_mul_lt_mul_right hlt hpow.le
      refine mul_lt_mul_of_pos_right ?_ hpow
      exact_mod_cast show d.coefficient + 1 < d'.coefficient by omega
    · -- a decimal with a greater exponent is greater
      have hleading : d'.leading + 1 ≤ d.leading := by
        rw [leading, leading, hlength]
        omega
      refine absurd hlt (not_lt.mpr ((value_bounds hd').2.le.trans ?_))
      exact (leading_le_iff hd).mp hleading

end Magnitude

section Unique

variable (hm : 0 < m)
include hm

theorem IsShortest.near (hd : d.IsShortest m e h) : Near m e d.value :=
  (identifies_iff hm).mp hd.identifies

theorem coefficient_pos (hd : Near m e d.value) : 0 < d.coefficient := by
  refine Nat.pos_of_ne_zero fun hzero => ?_
  have hpos := hd.pos hm
  rw [value, hzero] at hpos
  simp at hpos

theorem IsShortest.not_value_lt (hd : d.IsShortest m e h) (hd' : d'.IsShortest m e h) :
    ¬d.value < d'.value := by
  intro hlt
  have hnear := hd.near hm
  have hnear' := hd'.near hm
  have hlength : d'.digits.length = d.digits.length :=
    le_antisymm (hd'.fewest d hd.identifies) (hd.fewest d' hd'.identifies)
  have hdistance : d'.distance m e = d.distance m e :=
    le_antisymm (hd'.nearest d hd.identifies hlength.symm)
      (hd.nearest d' hd'.identifies hlength)
  obtain ⟨b, hlow, hhigh, hshort⟩ := exists_between (coefficient_pos hm hnear)
    (coefficient_pos hm hnear') hlength hlt
    (hd.even d' hd'.identifies hlength hdistance hlt.ne')
    (hd'.even d hd.identifies hlength.symm hdistance.symm hlt.ne)
  have hb : b.Identifies (finite false m e h) :=
    (identifies_iff hm).mpr (hnear.between hnear' hlow.le hhigh.le)
  have hnearest := hd.nearest b hb (le_antisymm hshort (hd.fewest b hb))
  rw [distance, distance] at hdistance hnearest
  grind

/-- At most one decimal stands for a number. -/
theorem IsShortest.unique (hd : d.IsShortest m e h) (hd' : d'.IsShortest m e h) : d' = d := by
  refine eq_of_value (coefficient_pos hm (hd.near hm)) ?_ ?_
  · exact le_antisymm (hd'.fewest d hd.identifies) (hd.fewest d' hd'.identifies)
  · exact le_antisymm (not_lt.mp (hd.not_value_lt hm hd')) (not_lt.mp (hd'.not_value_lt hm hd))

/-- The shortest decimal does not end in a zero. -/
theorem IsShortest.last_ne_zero (hd : d.IsShortest m e h) : d.coefficient % 10 ≠ 0 := by
  intro hzero
  have hpos := coefficient_pos hm (hd.near hm)
  have hlength : 1 < d.digits.length := by
    by_contra hone
    have hsmall := (Nat.length_toDigits_le_iff (by decide) one_pos).mp (not_lt.mp hone)
    omega
  have hvalue : (⟨d.coefficient / 10, d.exponent + 1⟩ : Decimal).value = d.value := by
    have hmul : (d.coefficient : ℚ) = (d.coefficient / 10 : Nat) * 10 := by
      exact_mod_cast (Nat.div_mul_cancel (Nat.dvd_of_mod_eq_zero hzero)).symm
    rw [value, value, hmul, zpow_add_one₀ (by norm_num)]
    ring
  have hfewest := hd.fewest ⟨d.coefficient / 10, d.exponent + 1⟩
    ((identifies_iff hm).mpr (hvalue ▸ hd.near hm))
  have hshorter : (Nat.toDigits 10 (d.coefficient / 10)).length ≤ d.digits.length - 1 := by
    refine (Nat.length_toDigits_le_iff (by decide) (by omega)).mpr ?_
    rw [Nat.div_lt_iff_lt_mul (by decide), ← Nat.pow_succ,
      show (d.digits.length - 1).succ = d.digits.length by omega]
    exact (Nat.length_toDigits_le_iff (by decide) d.length_digits_pos).mp le_rfl
  have : d.digits.length ≤ d.digits.length - 1 := hfewest.trans hshorter
  omega

/-- A number from some power of ten on has its shortest decimal from there on. -/
theorem IsShortest.power_le (hd : d.IsShortest m e h) (hpower : (10 : ℚ) ^ t ≤ m * 2 ^ e) :
    10 ^ t ≤ d.value := by
  by_contra hless
  rw [not_le] at hless
  have hone : (⟨1, t⟩ : Decimal).Identifies (finite false m e h) := by
    rw [identifies_iff hm, value_one]
    exact (hd.near hm).between (near_self m e) hless.le hpower
  have hlength := hd.fewest _ hone
  rw [digits_one, List.length_singleton] at hlength
  have hnearest := hd.nearest _ hone (by
    rw [digits_one, List.length_singleton]
    exact (le_antisymm hlength d.length_digits_pos).symm)
  rw [distance, distance, value_one, abs_of_nonpos (by linarith), abs_of_nonpos (by linarith)]
    at hnearest
  linarith

/-- A whole number has a shortest decimal without a fraction. -/
theorem IsShortest.exponent_nonneg (hd : d.IsShortest m e h) {n : Nat} (hvalue : d.value = n) :
    0 ≤ d.exponent := by
  by_contra hneg
  rw [value, zpow_eq_div (by norm_num), show d.exponent.toNat = 0 by omega, pow_zero,
    mul_one_div, div_eq_iff (by positivity)] at hvalue
  have hmul : d.coefficient = n * 10 ^ (-d.exponent).toNat := by exact_mod_cast hvalue
  refine hd.last_ne_zero hm (Nat.mod_eq_zero_of_dvd ?_)
  rw [hmul]
  exact Dvd.dvd.mul_left (dvd_pow_self 10 (by omega)) n

end Unique

end Decimal

end ViewModel
