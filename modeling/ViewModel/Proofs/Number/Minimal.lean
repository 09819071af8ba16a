import ViewModel.Proofs.Number.Identified

/-!
The search for a double's decimal finds the shortest one. A grid has a hit if it has any point near
the double, the hit is a point of the grid nearest to the double, and a decimal that is no longer
than the grid's digits is on the grid.
-/

namespace ViewModel

open Double

namespace Decimal

/-- Trailing zeros are left out of the coefficient. -/
theorem trim_spec {c : Nat} (hc : 0 < c) (k : Int) :
    (trim c k).coefficient % 10 ≠ 0 ∧ (trim c k).coefficient ∣ c ∧
      (c % 10 ≠ 0 → trim c k = ⟨c, k⟩) := by
  fun_induction trim c k with
  | case1 c k h ih =>
    obtain ⟨hlast, hdvd, -⟩ := ih (by omega)
    exact ⟨hlast, hdvd.trans (Nat.div_dvd_of_dvd (Nat.dvd_of_mod_eq_zero h.2)),
      fun hne => absurd h.2 hne⟩
  | case2 c k h => exact ⟨fun hzero => h ⟨hc, hzero⟩, dvd_rfl, fun _ => rfl⟩

/-- A trimmed number up to `10 ^ n` has at most `n` digits. -/
theorem length_trim_le {c n : Nat} (hc : 0 < c) (hn : 0 < n) (hle : c ≤ 10 ^ n) (k : Int) :
    (trim c k).digits.length ≤ n := by
  obtain ⟨hlast, hdvd, -⟩ := trim_spec hc k
  refine (Nat.length_toDigits_le_iff (by decide) hn).mpr ?_
  refine lt_of_le_of_ne ((Nat.le_of_dvd hc hdvd).trans hle) fun heq => ?_
  rw [heq] at hlast
  exact hlast (Nat.mod_eq_zero_of_dvd (dvd_pow_self 10 hn.ne'))

end Decimal

namespace RoundingInterval

variable {i : RoundingInterval} {m c c' : Nat} {e k : Int}

theorem upperNearer_iff (hunit : 0 < i.unit) : i.upperNearer k c = true ↔
    (2 * c + 1) * (10 : ℚ) ^ k < 2 * i.number ∨
      ((2 * c + 1) * (10 : ℚ) ^ k = 2 * i.number ∧ c % 2 = 1) := by
  have hunit' : (0 : ℚ) < i.unit := Nat.cast_pos.mpr hunit
  have hscale : (0 : ℚ) < i.unit * 10 ^ (-k).toNat := by positivity
  have htwice : ((2 * i.value * tenTo (-k).toNat : Nat) : ℚ) =
      2 * i.number * (i.unit * 10 ^ (-k).toNat) := by
    simp only [number, Nat.cast_mul, cast_tenTo]
    push_cast
    field_simp
  have hmiddle : (((2 * c + 1) * tenTo k.toNat * i.unit : Nat) : ℚ) =
      (2 * c + 1) * 10 ^ k * (i.unit * 10 ^ (-k).toNat) := by
    simp only [Nat.cast_mul, cast_tenTo, zpow_eq_div (show (10 : ℚ) ≠ 0 by norm_num) k]
    push_cast
    field_simp
  unfold upperNearer
  simp only [Bool.or_eq_true, decide_eq_true_eq, Bool.and_eq_true, beq_iff_eq]
  rw [← Nat.cast_lt (α := ℚ), ← Nat.cast_inj (R := ℚ), htwice, hmiddle,
    mul_lt_mul_iff_left₀ hscale, mul_left_inj' hscale.ne']

section Hit

/-- The neighbours of the double on a grid. -/
theorem grid_bounds (m : Nat) (e k : Int) :
    ((ofFinite m e).below k : ℚ) * 10 ^ k ≤ m * 2 ^ e ∧
      (m * 2 ^ e : ℚ) < ((ofFinite m e).below k + 1 : Nat) * 10 ^ k := by
  have h := below_bounds (unit_pos m e) k
  rwa [number_ofFinite] at h

/-- On either side of a number the neighbour is nearer than any other point of the grid. -/
theorem neighbour_nearest {b : Nat} {x : ℚ} (hlow : (b : ℚ) * 10 ^ k ≤ x)
    (hhigh : x < (b + 1 : Nat) * 10 ^ k) (c : Nat) :
    (c ≤ b ∧ x - b * 10 ^ k ≤ |c * 10 ^ k - x| ∧ (|c * 10 ^ k - x| = x - b * 10 ^ k → c = b)) ∨
      (b + 1 ≤ c ∧ (b + 1 : Nat) * 10 ^ k - x ≤ |c * 10 ^ k - x| ∧
        (|c * 10 ^ k - x| = (b + 1 : Nat) * 10 ^ k - x → c = b + 1)) := by
  have hpow := ten_zpow_pos k
  rcases Nat.lt_or_ge b c with hlt | hle
  · have hside : ((b + 1 : Nat) : ℚ) * 10 ^ k ≤ c * 10 ^ k :=
      mul_le_mul_of_nonneg_right (by exact_mod_cast hlt) hpow.le
    rw [abs_of_nonneg (by linarith)]
    refine .inr ⟨hlt, by linarith, fun heq => ?_⟩
    have heq' : (c : ℚ) * 10 ^ k = (b + 1 : Nat) * 10 ^ k := by linarith
    exact_mod_cast mul_right_cancel₀ hpow.ne' heq'
  · have hside : (c : ℚ) * 10 ^ k ≤ b * 10 ^ k :=
      mul_le_mul_of_nonneg_right (by exact_mod_cast hle) hpow.le
    rw [abs_of_nonpos (by linarith)]
    refine .inl ⟨hle, by linarith, fun heq => ?_⟩
    have heq' : (c : ℚ) * 10 ^ k = b * 10 ^ k := by linarith
    exact_mod_cast mul_right_cancel₀ hpow.ne' heq'

variable (hm : 0 < m)
include hm

/-- A neighbour is near the double if a point on its side is. -/
theorem contains_neighbour (hc : Near m e (c * 10 ^ k)) :
    (c ≤ (ofFinite m e).below k → (ofFinite m e).contains k ((ofFinite m e).below k) = true) ∧
      ((ofFinite m e).below k + 1 ≤ c →
        (ofFinite m e).contains k ((ofFinite m e).below k + 1) = true) := by
  obtain ⟨hlow, hhigh⟩ := grid_bounds m e k
  have hpow := ten_zpow_pos k
  rw [contains_ofFinite_iff hm, contains_ofFinite_iff hm]
  refine ⟨fun hle => hc.between (near_self m e) ?_ hlow,
    fun hge => (near_self m e).between hc hhigh.le ?_⟩
  · exact mul_le_mul_of_nonneg_right (by exact_mod_cast hle) hpow.le
  · exact mul_le_mul_of_nonneg_right (by exact_mod_cast hge) hpow.le

/-- A grid has a hit if one of its points is near the double. -/
theorem hit?_of_near (hc : Near m e (c * 10 ^ k)) : ∃ c, (ofFinite m e).hit? k = some c := by
  obtain ⟨hlower, hupper⟩ := contains_neighbour hm hc
  unfold hit?
  dsimp only
  rcases Nat.lt_or_ge ((ofFinite m e).below k) c with hlt | hle
  · rw [hupper hlt]
    cases (ofFinite m e).contains k ((ofFinite m e).below k) <;> exact ⟨_, rfl⟩
  · rw [hlower hle]
    cases (ofFinite m e).contains k ((ofFinite m e).below k + 1) <;> exact ⟨_, rfl⟩

/-- A hit is a neighbour, no point near the double is nearer, and of two that are as near the hit
is the even one. -/
theorem hit?_nearest (h : (ofFinite m e).hit? k = some c) (hc' : Near m e (c' * 10 ^ k)) :
    |(c * 10 ^ k - m * 2 ^ e : ℚ)| ≤ |(c' * 10 ^ k - m * 2 ^ e : ℚ)| ∧
      (|(c' * 10 ^ k - m * 2 ^ e : ℚ)| = |(c * 10 ^ k - m * 2 ^ e : ℚ)| → c' ≠ c →
        c % 2 = 0) := by
  have hchoice := upperNearer_iff (k := k) (c := (ofFinite m e).below k) (unit_pos m e)
  rw [number_ofFinite] at hchoice
  obtain ⟨hlower, hupper⟩ := contains_neighbour hm hc'
  obtain ⟨hlow, hhigh⟩ := grid_bounds m e k
  have hsides := neighbour_nearest hlow hhigh c'
  unfold hit? at h
  dsimp only at h
  generalize (ofFinite m e).below k = b at h hchoice hlower hupper hlow hhigh hsides
  have hlower_eq : |(b * 10 ^ k - m * 2 ^ e : ℚ)| = m * 2 ^ e - b * 10 ^ k := by
    rw [abs_of_nonpos (by linarith)]; ring
  have hupper_eq : |((b + 1 : Nat) * 10 ^ k - m * 2 ^ e : ℚ)| =
      (b + 1 : Nat) * 10 ^ k - m * 2 ^ e := abs_of_nonneg (by linarith)
  have hsum : ((b + 1 : Nat) : ℚ) * 10 ^ k + b * 10 ^ k = (2 * b + 1) * 10 ^ k := by
    push_cast; ring
  split at h
  next hb hb' =>
    split at h
    next hup =>
      obtain rfl := Option.some.inj h
      rw [hupper_eq]
      rcases hsides with ⟨-, hnear, heq⟩ | ⟨-, hnear, heq⟩
      · rcases hchoice.mp hup with hless | ⟨hhalf, hodd⟩
        · exact ⟨by linarith, fun htie => by linarith⟩
        · exact ⟨by linarith, fun _ _ => by omega⟩
      · exact ⟨hnear, fun htie hne => absurd (heq htie) hne⟩
    next hdown =>
      obtain rfl := Option.some.inj h
      rw [hlower_eq]
      rw [hchoice, not_or, not_and, not_lt] at hdown
      rcases hsides with ⟨-, hnear, heq⟩ | ⟨-, hnear, heq⟩
      · exact ⟨hnear, fun htie hne => absurd (heq htie) hne⟩
      · refine ⟨by linarith, fun htie _ => ?_⟩
        have := hdown.2 (by linarith)
        omega
  next hb hb' =>
    obtain rfl := Option.some.inj h
    rw [hlower_eq]
    rcases hsides with ⟨-, hnear, heq⟩ | ⟨hge, -, -⟩
    · exact ⟨hnear, fun htie hne => absurd (heq htie) hne⟩
    · exact absurd (hupper hge) (by simp [hb'])
  next hb hb' =>
    obtain rfl := Option.some.inj h
    rw [hupper_eq]
    rcases hsides with ⟨hle, -, -⟩ | ⟨-, hnear, heq⟩
    · exact absurd (hlower hle) (by simp [hb])
    · exact ⟨hnear, fun htie hne => absurd (heq htie) hne⟩
  next => cases h

end Hit

/-- A hit is one of the two neighbours. -/
theorem hit?_le (h : i.hit? k = some c) : c ≤ i.below k + 1 := by
  unfold hit? at h
  dsimp only at h
  split at h
  · split at h
    · have := Option.some.inj h; omega
    · have := Option.some.inj h; omega
  · have := Option.some.inj h; omega
  · have := Option.some.inj h; omega
  · cases h

end RoundingInterval

namespace Decimal

open RoundingInterval (ofFinite)

variable {d : Decimal} {m n c : Nat} {e t : Int} {h : Canonical m e}

/-- Negative powers of two and of ten differ by more than a factor nineteen. -/
theorem nineteen_ne (he : e < 0) (ht : t < 0) : (m * 2 ^ e : ℚ) ≠ 19 / 2 * 10 ^ t := by
  intro hhalf
  have hpowers : m * 2 * 10 ^ (-t).toNat = 2 ^ (-e).toNat * 19 := by
    rw [zpow_eq_div two_ne_zero e, zpow_eq_div (by norm_num) t, show e.toNat = 0 by omega,
      show t.toNat = 0 by omega, pow_zero, pow_zero] at hhalf
    field_simp at hhalf
    exact_mod_cast hhalf
  have hfive : 5 ∣ 2 ^ (-e).toNat * 19 :=
    hpowers ▸ Dvd.dvd.mul_left (dvd_pow (show 5 ∣ 10 by decide) (by omega)) _
  have hcoprime : Nat.Coprime 5 (2 ^ (-e).toNat) := Nat.Coprime.pow_right _ (by decide)
  exact absurd (hcoprime.dvd_of_dvd_mul_left hfive) (by decide)

/-- Halfway between nine and ten at some power of ten there is no double that ten is near: its
significand would have one digit, so it would be a negative power of two times that. -/
theorem not_halfway_nine (hcanonical : Canonical m e) (hnear : Near m e (10 * 10 ^ t)) :
    (m * 2 ^ e : ℚ) ≠ 19 / 2 * 10 ^ t := by
  intro hhalf
  have hpow := two_zpow_pos e
  have hwide : (10 : ℚ) ^ t ≤ 2 ^ e := by
    have hhigh := hnear.high
    rw [highEnd, add_mul, hhalf] at hhigh
    linarith
  have hsmall : m < 10 := by
    have hle : (m : ℚ) * 2 ^ e < 10 * 2 ^ e := by linarith
    exact_mod_cast lt_of_mul_lt_mul_right hle hpow.le
  have he : e = -1074 := hcanonical.2.2.2.resolve_left fun hfull => by
    have : (10 : Nat) < twoTo 52 := by decide
    omega
  have ht : t < 0 := by
    by_contra hge
    have hone : (1 : ℚ) ≤ 10 ^ t := ten_zpow_le (not_lt.mp hge)
    have hless : (2 : ℚ) ^ e ≤ 2 ^ (-1 : Int) := two_zpow_le (by omega)
    exact absurd ((hone.trans hwide).trans hless) (by norm_num)
  exact nineteen_ne (by omega) ht hhalf

section Competitor

variable (hm : 0 < m)
include hm

/-- A decimal near the double is on the grid of as many digits, unless it has one digit fewer before
the point. -/
theorem on_grid (hd : Near m e d.value) :
    (∃ c : Nat, d.value = c * 10 ^ ((ofFinite m e).magnitude - d.digits.length)) ∨
      d.value < 10 ^ ((ofFinite m e).magnitude - 1) := by
  have hpos := coefficient_pos hm hd
  generalize (ofFinite m e).magnitude = top
  by_cases htop : top ≤ d.leading + 1
  · left
    refine ⟨d.coefficient * 10 ^ (d.leading + 1 - top).toNat, ?_⟩
    push_cast
    rw [value, mul_assoc, ← zpow_natCast, ← ten_zpow_add]
    congr 2
    rw [leading] at htop ⊢
    omega
  · right
    exact (value_bounds hpos).2.trans_le (ten_zpow_le (by omega))

variable (hleast : -1074 ≤ e)
include hleast

theorem near_power (hd : Near m e d.value) (hlt : d.value < 10 ^ ((ofFinite m e).magnitude - 1)) :
    Near m e (10 ^ ((ofFinite m e).magnitude - 1)) := by
  obtain ⟨hlow, -⟩ := RoundingInterval.magnitude_bounds hm hleast
  rw [RoundingInterval.number_ofFinite] at hlow
  exact hd.between (near_self m e) hlt.le hlow

/-- A grid before which there is no hit has no more digits than a decimal near the double. -/
theorem first_le_length (hfirst : ∀ l : Nat, 1 ≤ l → l < n →
      (ofFinite m e).hit? ((ofFinite m e).magnitude - l) = none) (hd : Near m e d.value) :
    n ≤ d.digits.length := by
  have hpos := d.length_digits_pos
  have hhit : ∀ l : Nat, 1 ≤ l → ∀ c : Nat,
      Near m e (c * 10 ^ ((ofFinite m e).magnitude - l)) → n ≤ l := by
    intro l hl c hc
    by_contra hlt
    obtain ⟨c', hc'⟩ := RoundingInterval.hit?_of_near hm hc
    rw [hfirst l hl (by omega)] at hc'
    cases hc'
  rcases on_grid hm hd with ⟨c, hc⟩ | hlt
  · exact hhit _ hpos c (hc ▸ hd)
  · have hone := hhit 1 le_rfl 1 (by simpa using near_power hm hleast hd hlt)
    omega

/-- Such a decimal with just as many digits is on the grid, or the grid has a point near the double
that is nearer. -/
theorem exists_as_near (hfirst : ∀ l : Nat, 1 ≤ l → l < n →
      (ofFinite m e).hit? ((ofFinite m e).magnitude - l) = none) (hd : Near m e d.value)
    (hlength : n = d.digits.length) :
    ∃ c : Nat, Near m e (c * 10 ^ ((ofFinite m e).magnitude - n)) ∧
      (d.value = c * 10 ^ ((ofFinite m e).magnitude - n) ∨
        |(c * 10 ^ ((ofFinite m e).magnitude - n) - m * 2 ^ e : ℚ)| < d.distance m e) := by
  rcases on_grid hm hd with ⟨c, hc⟩ | hless
  · rw [← hlength] at hc
    exact ⟨c, hc ▸ hd, .inl hc⟩
  · have hpower := near_power hm hleast hd hless
    have hn := first_le_length (d := ⟨1, (ofFinite m e).magnitude - 1⟩) hm hleast hfirst
      (by rwa [value_one])
    rw [digits_one, List.length_singleton] at hn
    obtain rfl : n = 1 := le_antisymm hn (hlength ▸ d.length_digits_pos)
    obtain ⟨hlow, -⟩ := RoundingInterval.magnitude_bounds hm hleast
    rw [RoundingInterval.number_ofFinite] at hlow
    refine ⟨1, by simpa using hpower, .inr ?_⟩
    push_cast
    rw [distance, one_mul, abs_of_nonpos (by linarith), abs_of_nonpos (by linarith)]
    linarith

end Competitor

section First

variable {c' : Nat} (hcanonical : Canonical m e) (hm : 0 < m) (hn : 1 ≤ n)
  (hhit : (ofFinite m e).hit? ((ofFinite m e).magnitude - n) = some c)
  (hfirst : ∀ l : Nat, 1 ≤ l → l < n →
    (ofFinite m e).hit? ((ofFinite m e).magnitude - l) = none)
include hcanonical hm hhit

/-- A hit has at most the digits of its grid, or is the power of ten above them. -/
theorem hit_le_power : c ≤ 10 ^ n := by
  obtain ⟨-, hbelow⟩ := RoundingInterval.magnitude_bounds hm hcanonical.2.1
  obtain ⟨hlow, -⟩ := RoundingInterval.grid_bounds m e ((ofFinite m e).magnitude - n)
  rw [RoundingInterval.number_ofFinite] at hbelow
  have hless := hlow.trans_lt hbelow
  rw [show (ofFinite m e).magnitude = n + ((ofFinite m e).magnitude - n) by omega, ten_zpow_add,
    show (n : Int) + ((ofFinite m e).magnitude - n) = (ofFinite m e).magnitude by omega,
    zpow_natCast] at hless
  have hless' : (ofFinite m e).below ((ofFinite m e).magnitude - n) < 10 ^ n := by
    exact_mod_cast lt_of_mul_lt_mul_right hless (ten_zpow_pos _).le
  have := RoundingInterval.hit?_le hhit
  omega

include hn hfirst

/-- The first hit does not end in a zero if another point of its grid is as near: it would be ten on
the grid of one digit, and the other point nine. -/
theorem last_ne_zero (hc' : Near m e (c' * 10 ^ ((ofFinite m e).magnitude - n))) (hne : c' ≠ c)
    (htie : |(c' * 10 ^ ((ofFinite m e).magnitude - n) - m * 2 ^ e : ℚ)| =
      |(c * 10 ^ ((ofFinite m e).magnitude - n) - m * 2 ^ e : ℚ)|) : c % 10 ≠ 0 := by
  intro hzero
  have hc := (RoundingInterval.contains_ofFinite_iff hm).mp
    (RoundingInterval.contains_of_hit? hhit)
  have hpos : 0 < c := coefficient_pos (d := ⟨c, _⟩) hm hc
  rcases Nat.lt_or_eq_of_le hn with hlong | rfl
  · -- without its last zero it would be a hit of the grid before
    have hshorter :
        Near m e ((c / 10 : Nat) * 10 ^ ((ofFinite m e).magnitude - (n - 1 : Nat))) := by
      have hmul : (c : ℚ) = (c / 10 : Nat) * 10 := by
        exact_mod_cast (Nat.div_mul_cancel (Nat.dvd_of_mod_eq_zero hzero)).symm
      rw [show (ofFinite m e).magnitude - (n - 1 : Nat) = 1 + ((ofFinite m e).magnitude - n) by
        omega, ten_zpow_add, zpow_one, ← mul_assoc, ← hmul]
      exact hc
    obtain ⟨b, hb⟩ := RoundingInterval.hit?_of_near hm hshorter
    rw [hfirst (n - 1) (by omega) (by omega)] at hb
    cases hb
  · obtain rfl : c = 10 := by
      have := hit_le_power hcanonical hm hhit
      omega
    obtain ⟨-, hbelow⟩ := RoundingInterval.magnitude_bounds hm hcanonical.2.1
    have hnearest := fun (b : Nat)
        (hb : Near m e (b * 10 ^ ((ofFinite m e).magnitude - (1 : Nat)))) =>
      (RoundingInterval.hit?_nearest hm hhit hb).1
    rw [RoundingInterval.number_ofFinite,
      show (ofFinite m e).magnitude = 1 + ((ofFinite m e).magnitude - (1 : Nat)) by omega,
      ten_zpow_add, zpow_one] at hbelow
    generalize (ofFinite m e).magnitude - (1 : Nat) = t at *
    have hten := ten_zpow_pos t
    push_cast at hc htie hnearest
    rw [abs_of_pos (show (0 : ℚ) < 10 * 10 ^ t - m * 2 ^ e by linarith)] at htie hnearest
    have hmiddle : (m * 2 ^ e : ℚ) = (10 + c') / 2 * 10 ^ t := by
      rcases abs_choice (c' * 10 ^ t - m * 2 ^ e : ℚ) with habs | habs
      · have heq : (c' : ℚ) * 10 ^ t = 10 * 10 ^ t := by linarith
        exact absurd (by exact_mod_cast mul_right_cancel₀ hten.ne' heq) hne
      · linarith
    have hless : c' < 10 := by
      have hle : (c' : ℚ) * 10 ^ t < 10 * 10 ^ t := by linarith
      exact_mod_cast lt_of_mul_lt_mul_right hle hten.le
    rcases Nat.lt_or_eq_of_le (Nat.le_of_lt_succ hless) with hless | rfl
    · -- nine would be nearer than ten
      have hle : (c' : ℚ) * 10 ^ t ≤ 8 * 10 ^ t :=
        mul_le_mul_of_nonneg_right (by exact_mod_cast Nat.le_of_lt_succ hless) hten.le
      have hnine := hnearest 9 ((near_self m e).between hc (by push_cast; linarith)
        (by push_cast; linarith))
      push_cast at hnine
      rw [abs_of_nonneg (by linarith)] at hnine
      linarith
    · refine not_halfway_nine hcanonical hc ?_
      rw [hmiddle]
      norm_num

end First

/-- The decimal that the search finds stands for the double. -/
theorem isShortest_shortestDecimal (h : Canonical m e) (hm : 0 < m) :
    (shortestDecimal m e).IsShortest m e h ∧ (shortestDecimal m e).digits.length ≤ 17 := by
  obtain ⟨n, c, hn, hlast, hhit, hfirst, heq⟩ := shortestDecimal_first h hm
  have hc := (RoundingInterval.contains_ofFinite_iff hm).mp
    (RoundingInterval.contains_of_hit? hhit)
  have hpos : 0 < c := coefficient_pos (d := ⟨c, _⟩) hm hc
  have hvalue := trim_value c ((ofFinite m e).magnitude - n)
  have hlength := length_trim_le hpos hn (hit_le_power h hm hhit) ((ofFinite m e).magnitude - n)
  obtain ⟨-, -, htrim⟩ := trim_spec hpos ((ofFinite m e).magnitude - n)
  rw [heq]
  have hfewest : ∀ d' : Decimal, d'.Identifies (finite false m e h) → n ≤ d'.digits.length :=
    fun d' hd' => first_le_length hm h.2.1 hfirst ((identifies_iff hm).mp hd')
  have hgrid : ∀ d' : Decimal, d'.Identifies (finite false m e h) →
      d'.digits.length = (trim c ((ofFinite m e).magnitude - n)).digits.length →
      ∃ c' : Nat, Near m e (c' * 10 ^ ((ofFinite m e).magnitude - n)) ∧
        (d'.value = c' * 10 ^ ((ofFinite m e).magnitude - n) ∨
          |(c' * 10 ^ ((ofFinite m e).magnitude - n) - m * 2 ^ e : ℚ)| < d'.distance m e) :=
    fun d' hd' hsame => exists_as_near hm h.2.1 hfirst ((identifies_iff hm).mp hd')
      (le_antisymm (hfewest d' hd') (hsame.trans_le hlength))
  refine ⟨⟨?_, fun d' hd' => hlength.trans (hfewest d' hd'), fun d' hd' hsame => ?_,
    fun d' hd' hsame htie hne => ?_⟩, hlength.trans hlast⟩
  · rwa [identifies_iff hm, hvalue]
  · obtain ⟨c', hc', hd'⟩ := hgrid d' hd' hsame
    obtain ⟨hle, -⟩ := RoundingInterval.hit?_nearest hm hhit hc'
    rw [distance, hvalue]
    rcases hd' with hd' | hd'
    · rwa [distance, hd']
    · exact hle.trans hd'.le
  · obtain ⟨c', hc', hd'⟩ := hgrid d' hd' hsame
    obtain ⟨hle, heven⟩ := RoundingInterval.hit?_nearest hm hhit hc'
    rw [distance, distance, hvalue] at htie
    rw [hvalue] at hne
    rcases hd' with hd' | hd'
    · rw [hd'] at htie hne
      have hne' : c' ≠ c := fun heq => hne (by rw [heq])
      rw [htrim (last_ne_zero h hm hn hhit hfirst hc' hne' htie)]
      exact heven htie hne'
    · rw [distance, htie] at hd'
      exact absurd hle (not_le.mpr hd')

end Decimal

end ViewModel
