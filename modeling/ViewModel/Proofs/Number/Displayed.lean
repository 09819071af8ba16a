import Mathlib.Data.List.TakeWhile
import ViewModel.Proofs.Number.Minimal
import ViewModel.Value.Display

/-!
Numbers on pages against numbers in JavaScript. There a number is written by its shortest digits,
around a point below `1e21` and down to `1e-6`, otherwise with an exponent. Fractions and huge
numbers are shown just so. Whole numbers below `1e21` are shown with all their digits, which are the
same ones only where the shortest decimal is exact: always up to `2 ^ 53`, but not from there on.
-/

namespace ViewModel

/-- A point after the first of several digits. -/
def pointed (digits : List Char) : List Char :=
  if digits.length = 1 then digits else digits.take 1 ++ '.' :: digits.drop 1

/-- Digits as JavaScript lays them out, the first `n` of them before the point. -/
def javascriptLayout (digits : List Char) (n : Int) : List Char :=
  let k : Int := digits.length
  if k ≤ n ∧ n ≤ 21 then digits ++ List.replicate (n - k).toNat '0'
  else if 0 < n ∧ n ≤ 21 then digits.take n.toNat ++ '.' :: digits.drop n.toNat
  else if -6 < n ∧ n ≤ 0 then '0' :: '.' :: List.replicate (-n).toNat '0' ++ digits
  else
    pointed digits ++ 'e' :: (if 0 < n - 1 then '+' else '-') :: Nat.toDigits 10 (n - 1).natAbs

def minusText (negative : Bool) : List Char := if negative then ['-'] else []

section Digits

theorem getLast?_toDigits {n : Nat} (h : n % 10 ≠ 0) :
    (Nat.toDigits 10 n).getLast? ≠ some '0' := by
  rw [Nat.toDigits_eq_if (by decide)]
  split
  next hsmall =>
    rw [Nat.mod_eq_of_lt hsmall] at h
    simp [Nat.digitChar_eq_zero, h]
  next => simp [Nat.digitChar_eq_zero, h]

end Digits

section Relay

variable {digits : List Char} {leading : Int} {cs : List Char} {negative : Bool}

/-- A text without an exponent stays as it is. -/
theorem relay_plain (h : ∀ c ∈ cs, c ≠ 'e') : relay cs = cs := by
  have htake : cs.takeWhile (· ≠ 'e') = cs := List.takeWhile_eq_self_iff.mpr (by simpa using h)
  have hdrop : cs.dropWhile (· ≠ 'e') = [] := List.dropWhile_eq_nil_iff.mpr (by simpa using h)
  unfold relay
  rw [hdrop, htake]

/-- The digits of the exponent without the zeros before them. -/
theorem relay_exponent {mantissa : List Char} {below : Bool} {power : Nat}
    (h : ∀ c ∈ mantissa, c ≠ 'e') :
    relay (mantissa ++ ('e' :: (if below then '-' else '+') ::
        NumberLayout.padded 2 (Nat.toDigits 10 power))) =
      if below && power < 7 then
        (if mantissa.head? = some '-' then ['-'] else []) ++ ['0', '.'] ++
          List.replicate (power - 1) '0' ++ mantissa.filter (fun c => c ≠ '-' && c ≠ '.')
      else mantissa ++ ['e', if below then '-' else '+'] ++ Nat.toDigits 10 power := by
  have htake : ∀ r, (mantissa ++ 'e' :: r).takeWhile (· ≠ 'e') = mantissa := by
    intro r
    rw [List.takeWhile_append_of_pos (by simpa using h)]
    simp
  have hdrop : ∀ r, (mantissa ++ 'e' :: r).dropWhile (· ≠ 'e') = 'e' :: r := by
    intro r
    rw [List.dropWhile_append_of_pos (by simpa using h)]
    simp
  have hpower : Nat.ofDigitChars 10 (NumberLayout.padded 2 (Nat.toDigits 10 power)) 0 = power := by
    rw [NumberLayout.padded, ofDigitChars_zeros, ofDigitChars_toDigits]
  unfold relay
  rw [hdrop, htake]
  cases below <;> simp [takeSign, hpower]

theorem scientific_eq (hne : digits ≠ []) : NumberLayout.plain.scientific digits leading =
    pointed digits ++ ('e' :: (if decide (leading < 0) then '-' else '+') ::
      NumberLayout.padded 2 (Nat.toDigits 10 leading.natAbs)) := by
  obtain ⟨c, ds, rfl⟩ := List.exists_cons_of_ne_nil hne
  cases ds <;> simp [NumberLayout.scientific, NumberLayout.plain, pointed]

theorem mem_pointed {c : Char} (h : c ∈ pointed digits) : c ∈ digits ∨ c = '.' := by
  unfold pointed at h
  split at h
  · exact .inl h
  · rcases List.mem_append.mp h with h | h
    · exact .inl (List.mem_of_mem_take h)
    · exact (List.mem_cons.mp h).symm.imp_left List.mem_of_mem_drop

theorem mem_minusText {c : Char} (h : c ∈ minusText negative) : c = '-' := by
  cases negative <;> simp_all [minusText]

variable (hdigits : ∀ c ∈ digits, c.isDigit = true)
include hdigits

theorem filter_pointed :
    (minusText negative ++ pointed digits).filter (fun c => c ≠ '-' && c ≠ '.') = digits := by
  have hkept : ∀ ds : List Char, (∀ c ∈ ds, c ∈ digits) →
      ds.filter (fun c => c ≠ '-' && c ≠ '.') = ds := by
    refine fun ds hds => List.filter_eq_self.mpr fun c hc => ?_
    have hdigit := hdigits c (hds c hc)
    have hminus : c ≠ '-' := fun h => by simp [h] at hdigit
    have hpoint : c ≠ '.' := fun h => by simp [h] at hdigit
    simp [hminus, hpoint]
  have hsign : (minusText negative).filter (fun c => c ≠ '-' && c ≠ '.') = [] := by
    cases negative <;> rfl
  rw [List.filter_append, hsign, List.nil_append]
  unfold pointed
  split
  · exact hkept digits fun _ => id
  · rw [List.filter_append, List.filter_cons_of_neg (by simp),
      hkept _ fun _ => List.mem_of_mem_take, hkept _ fun _ => List.mem_of_mem_drop,
      List.take_append_drop]

/-- Neither the sign nor a digit starts an exponent. -/
theorem ne_exponent (hcs : ∀ c ∈ cs, c ∈ digits ∨ c = '.' ∨ c = '0') :
    ∀ c ∈ minusText negative ++ cs, c ≠ 'e' := by
  rintro c hc rfl
  rcases List.mem_append.mp hc with hc | hc
  · exact absurd (mem_minusText hc) (by decide)
  · rcases hcs _ hc with hc | hc | hc
    · exact absurd (hdigits _ hc) (by decide)
    · exact absurd hc (by decide)
    · exact absurd hc (by decide)

/-- Digits around a point stay as they are. -/
theorem relay_positional (hlow : -4 ≤ leading) (hfraction : leading + 1 < digits.length)
    (hlength : digits.length ≤ 17) :
    relay (minusText negative ++ NumberLayout.plain.positional digits leading) =
      minusText negative ++ javascriptLayout digits (leading + 1) := by
  have hpositional : NumberLayout.plain.positional digits leading =
      javascriptLayout digits (leading + 1) := by
    unfold NumberLayout.positional javascriptLayout
    dsimp only
    rw [if_neg (show ¬((digits.length : Int) ≤ leading + 1 ∧ leading + 1 ≤ 21) by omega)]
    split
    next hneg =>
      rw [if_neg (by omega), if_pos (by omega), show -leading - 1 = -(leading + 1) by omega]
      rfl
    next hneg =>
      rw [if_pos (by omega), if_pos (by omega),
        show (leading + 1).toNat = leading.toNat + 1 by omega]
  rw [hpositional, relay_plain]
  refine ne_exponent hdigits fun c hc => ?_
  rw [← hpositional] at hc
  unfold NumberLayout.positional at hc
  dsimp only at hc
  split at hc
  · simp only [List.mem_append, List.mem_cons, List.mem_replicate, List.not_mem_nil, or_false] at hc
    tauto
  · rw [if_pos (by omega)] at hc
    rcases List.mem_append.mp hc with hc | hc
    · exact .inl (List.mem_of_mem_take hc)
    · exact (List.mem_cons.mp hc).symm.imp List.mem_of_mem_drop .inl

variable (hne : digits ≠ [])
include hne

theorem head_pointed : (if (minusText negative ++ pointed digits).head? = some '-' then ['-']
    else []) = minusText negative := by
  cases negative with
  | true => rfl
  | false =>
    obtain ⟨c, ds, rfl⟩ := List.exists_cons_of_ne_nil hne
    have hdigit := hdigits c List.mem_cons_self
    have hminus : c ≠ '-' := fun h => by simp [h] at hdigit
    unfold pointed
    split <;> simp [minusText, hminus]

/-- An exponent comes back without zeros before it, or a small fraction from its exponent. -/
theorem relay_scientific (h : leading < -4 ∨ 21 ≤ leading) :
    relay (minusText negative ++ NumberLayout.plain.scientific digits leading) =
      minusText negative ++ javascriptLayout digits (leading + 1) := by
  have hpos := List.length_pos_iff.mpr hne
  have hplain : ∀ c ∈ minusText negative ++ pointed digits, c ≠ 'e' :=
    ne_exponent hdigits fun c hc => (mem_pointed hc).imp_right .inl
  rw [scientific_eq hne, ← List.append_assoc, relay_exponent hplain, head_pointed hdigits hne,
    filter_pointed hdigits]
  unfold javascriptLayout
  dsimp only
  rw [if_neg (show ¬((digits.length : Int) ≤ leading + 1 ∧ leading + 1 ≤ 21) by omega),
    if_neg (show ¬(0 < leading + 1 ∧ leading + 1 ≤ 21) by omega)]
  by_cases hsmall : -6 < leading + 1 ∧ leading + 1 ≤ 0
  · rw [if_pos hsmall, if_pos (by simp; omega),
      show (-(leading + 1)).toNat = leading.natAbs - 1 by omega]
    simp
  · rw [if_neg hsmall, if_neg (by simp; omega), add_sub_cancel_right]
    by_cases hneg : leading < 0
    · rw [if_pos (by simpa using hneg), if_neg (by omega)]
      simp
    · rw [if_neg (by simpa using hneg), if_pos (by omega)]
      simp

/-- The shortest text of a fraction or of a huge number is laid out anew as JavaScript does. -/
theorem relay_write (hlength : digits.length ≤ 17)
    (h : leading + 1 < digits.length ∨ 21 ≤ leading) :
    relay (minusText negative ++ NumberLayout.plain.write digits leading) =
      minusText negative ++ javascriptLayout digits (leading + 1) := by
  unfold NumberLayout.write
  split
  next hplain =>
    obtain ⟨hlow, hhigh⟩ : -4 ≤ leading ∧ leading < 16 := hplain
    exact relay_positional hdigits hlow (h.resolve_right (by omega)) hlength
  next hplain =>
    have hplain' : ¬(-4 ≤ leading ∧ leading < 16) := hplain
    exact relay_scientific hdigits hne (by omega)

end Relay

namespace Double

/-- The text of a number in JavaScript. -/
inductive ShownAs : Double → String → Prop
  | nan : ShownAs nan "NaN"
  | infinite (negative : Bool) :
      ShownAs (infinite negative) (if negative then "-Infinity" else "Infinity")
  | zero (negative : Bool) : ShownAs (zero negative) "0"
  | finite {m : Nat} {e : Int} {h : Canonical m e} {d : Decimal} (negative : Bool) (hm : 0 < m)
      (hd : d.IsShortest m e h) :
      ShownAs (finite negative m e h)
        (String.ofList (minusText negative ++ javascriptLayout d.digits (d.leading + 1)))

variable {negative : Bool} {m : Nat} {e : Int} {h : Canonical m e} {d : Decimal} {n : Int}

section Whole

theorem natAbs_signed (negative : Bool) (k : Nat) : (signed negative k).natAbs = k := by
  cases negative <;> simp [signed]

/-- A double that equals a whole number is that number. -/
theorem whole?_eq_some (hwhole : (finite negative m e h).whole? = some n) :
    (n.natAbs : ℚ) = m * 2 ^ e ∧ n = signed negative n.natAbs := by
  rw [whole?] at hwhole
  split at hwhole
  next he =>
    obtain rfl := Option.some.inj hwhole
    rw [natAbs_signed, zpow_eq_div two_ne_zero, show (-e).toNat = 0 by omega, Nat.cast_mul,
      cast_twoTo]
    simp
  next he =>
    split at hwhole
    next hdvd =>
      obtain rfl := Option.some.inj hwhole
      have hmul : (m : ℚ) = (m / twoTo (-e).toNat : Nat) * 2 ^ (-e).toNat := by
        rw [← cast_twoTo]
        exact_mod_cast (Nat.div_mul_cancel (Nat.dvd_of_mod_eq_zero hdvd)).symm
      rw [natAbs_signed, zpow_eq_div two_ne_zero, show e.toNat = 0 by omega, hmul]
      simp
    · cases hwhole

theorem whole?_of_nat {k : Nat} (hk : (k : ℚ) = m * 2 ^ e) :
    (finite negative m e h).whole? = some (signed negative k) := by
  rw [zpow_eq_div two_ne_zero] at hk
  rw [whole?]
  split
  next he =>
    rw [show (-e).toNat = 0 by omega, pow_zero, div_one, ← cast_twoTo] at hk
    have hmul : k = m * twoTo e.toNat := by exact_mod_cast hk
    rw [hmul]
  next he =>
    rw [show e.toNat = 0 by omega, pow_zero, mul_one_div, eq_div_iff (by positivity),
      ← cast_twoTo] at hk
    have hmul : k * twoTo (-e).toNat = m := by exact_mod_cast hk
    have hpos : 0 < twoTo (-e).toNat := Nat.pow_pos (by decide)
    rw [← hmul, Nat.mul_mod_left, if_pos rfl, Nat.mul_div_cancel _ hpos]

end Whole

/-- The shortest digits of a fraction go on behind the point, and those of a huge number start as
high as it. -/
theorem shortest_leading (hm : 0 < m) (hd : d.IsShortest m e h)
    (hx : ∀ n, (finite negative m e h).whole? = some n → tenTo 21 ≤ n.natAbs) :
    d.leading + 1 < d.digits.length ∨ 21 ≤ d.leading := by
  have hpos := Decimal.coefficient_pos hm (hd.near hm)
  by_cases hexponent : d.exponent < 0
  · left
    rw [Decimal.leading]
    omega
  · -- the decimal is whole, and so is the double, which is then huge
    right
    rw [Decimal.leading_le_iff hpos]
    refine hd.power_le hm ?_
    have hvalue := Decimal.value_of_nonneg (not_lt.mp hexponent)
    obtain ⟨k, hk⟩ : ∃ k : Nat, (k : ℚ) = m * 2 ^ e := by
      rcases le_or_gt e 0 with he | he
      · exact ⟨_, (hvalue ▸ hd.near hm).eq_of_whole he⟩
      · refine ⟨m * 2 ^ e.toNat, ?_⟩
        rw [zpow_eq_div two_ne_zero, show (-e).toNat = 0 by omega]
        simp
    have hhuge := hx _ (whole?_of_nat hk)
    rw [natAbs_signed] at hhuge
    rw [← hk]
    exact_mod_cast hhuge

/-- Fractions and huge numbers are shown by their shortest digits, of which there are at most
seventeen, laid out as in JavaScript. -/
theorem displayed_relaid (hx : ∀ n, (finite negative m e h).whole? = some n → tenTo 21 ≤ n.natAbs) :
    (∃ d : Decimal, d.IsShortest m e h) ∧ ∀ d : Decimal, d.IsShortest m e h →
      (d.digits.length ≤ 17 ∧ d.digits.head? ≠ some '0' ∧ d.digits.getLast? ≠ some '0') ∧
      (finite negative m e h).text.toList =
        minusText negative ++ NumberLayout.plain.write d.digits d.leading ∧
      (finite negative m e h).displayed.toList =
        minusText negative ++ javascriptLayout d.digits (d.leading + 1) := by
  have hm : 0 < m := by
    refine Nat.pos_of_ne_zero fun hzero => ?_
    have hsmall := hx _ (whole?_of_nat (k := 0) (by simp [hzero]))
    rw [natAbs_signed] at hsmall
    exact absurd hsmall (by decide)
  obtain ⟨hshortest, hseventeen⟩ := Decimal.isShortest_shortestDecimal h hm
  refine ⟨⟨_, hshortest⟩, fun d hd => ?_⟩
  obtain rfl := hd.unique hm hshortest
  have hpos := Decimal.coefficient_pos hm (hd.near hm)
  have htext : (finite negative m e h).text.toList = minusText negative ++
      NumberLayout.plain.write (shortestDecimal m e).digits (shortestDecimal m e).leading := by
    rw [text]
    cases negative <;> simp [minusText]
  have hdisplayed : (finite negative m e h).displayed.toList =
      relay (finite negative m e h).text.toList := by
    simp only [displayed]
    split
    next n hn => rw [if_neg (not_lt.mpr (hx n hn)), String.toList_ofList]
    next => rw [String.toList_ofList]
  refine ⟨⟨hseventeen, head?_toDigits hpos, getLast?_toDigits (hd.last_ne_zero hm)⟩, htext, ?_⟩
  rw [hdisplayed, htext]
  exact relay_write (fun _ => isDigit_toDigits) (shortestDecimal m e).digits_ne_nil hseventeen
    (shortest_leading hm hd hx)

/-- Minus an eighth of a millionth has an exponent in both texts. -/
theorem displayed_relaid_eighth :
    let m := 4722366482869645
    let x := finite true m (-75) (by decide)
    (⟨125, -9⟩ : Decimal).IsShortest m (-75) (by decide) ∧ x.text = "-1.25e-07" ∧
      x.displayed = "-1.25e-7" := by
  intro m x
  have hdecimal : shortestDecimal m (-75) = ⟨125, -9⟩ := by decide +kernel
  obtain ⟨hshortest, -⟩ := Decimal.isShortest_shortestDecimal (m := m) (e := -75) (by decide)
    (by decide)
  rw [hdecimal] at hshortest
  have hx : ∀ n, x.whole? = some n → tenTo 21 ≤ n.natAbs := by
    have hfraction : x.whole? = none := by decide
    simp [hfraction]
  obtain ⟨-, htext, hdisplayed⟩ := (displayed_relaid hx).2 _ hshortest
  exact ⟨hshortest, String.toList_inj.mp (htext.trans (by decide)),
    String.toList_inj.mp (hdisplayed.trans (by decide))⟩

section Exact

theorem toDigits_mul_ten_pow {c : Nat} (hc : 0 < c) (k : Nat) :
    Nat.toDigits 10 (c * 10 ^ k) = Nat.toDigits 10 c ++ List.replicate k '0' := by
  induction k with
  | zero => simp
  | succ k ih =>
    have hpos : 0 < c * 10 ^ k := Nat.mul_pos hc (Nat.pow_pos (by decide))
    rw [Nat.pow_succ, ← Nat.mul_assoc, Nat.toDigits_eq_if (by decide), if_neg (by omega),
      Nat.mul_div_cancel _ (by decide), Nat.mul_mod_left, ih, List.replicate_succ',
      List.append_assoc]
    rfl

/-- A whole decimal below `1e21` is laid out as a whole number. -/
theorem javascriptLayout_whole (hd : 0 < d.coefficient) (hexponent : 0 ≤ d.exponent)
    (hsmall : d.leading + 1 ≤ 21) : javascriptLayout d.digits (d.leading + 1) =
      Nat.toDigits 10 (d.coefficient * 10 ^ d.exponent.toNat) := by
  rw [toDigits_mul_ten_pow hd, javascriptLayout]
  rw [Decimal.leading] at hsmall ⊢
  rw [if_pos (by omega), Decimal.digits]
  congr 2
  omega

/-- A decimal that is laid out with digits only is whole. -/
theorem whole_of_javascriptLayout
    (h : ∀ c ∈ javascriptLayout d.digits (d.leading + 1), c.isDigit = true) :
    0 ≤ d.exponent ∧ d.leading + 1 ≤ 21 := by
  have hpoint : ¬('.' : Char).isDigit = true := by decide
  have hletter : ¬('e' : Char).isDigit = true := by decide
  unfold javascriptLayout at h
  dsimp only at h
  split at h
  next hwhole =>
    rw [Decimal.leading] at hwhole
    rw [Decimal.leading]
    omega
  · split at h
    · exact absurd (h '.' (by simp)) hpoint
    · split at h
      · exact absurd (h '.' (by simp)) hpoint
      · exact absurd (h 'e' (by simp)) hletter

/-- The only even significand up to `2 ^ 53` is the one of `2 ^ 53` itself. -/
theorem eq_power_of_le {k : Nat} (hcanonical : Canonical m e) (he : 0 < e)
    (hk : (k : ℚ) = m * 2 ^ e) (hle : k ≤ twoTo 53) : m = twoTo 52 ∧ e = 1 := by
  obtain ⟨f, rfl⟩ : ∃ f : Nat, e = f + 1 := ⟨(e - 1).toNat, by omega⟩
  have hfull : twoTo 52 ≤ m := hcanonical.2.2.2.resolve_right (by omega)
  have hmul : k = m * 2 ^ f * 2 := by
    rw [zpow_add_one₀ two_ne_zero, zpow_natCast, ← mul_assoc] at hk
    exact_mod_cast hk
  have hdouble : twoTo 53 = twoTo 52 * 2 := rfl
  have hone : 1 ≤ 2 ^ f := Nat.one_le_two_pow
  have hle' : m * 2 ^ f ≤ twoTo 52 := by omega
  have hm : m ≤ m * 2 ^ f := Nat.le_mul_of_pos_right m hone
  have hpos : 0 < m := Nat.lt_of_lt_of_le (Nat.pow_pos (by decide)) hfull
  have hpower : 2 ^ f = 1 := by
    refine Nat.eq_of_mul_eq_mul_left hpos ?_
    omega
  have hf : f = 0 := by simpa using hpower
  exact ⟨by omega, by omega⟩

/-- Up to `2 ^ 53` the shortest decimal of a whole number is that number. -/
theorem shortest_eq_of_le {k : Nat} (hm : 0 < m) (hd : d.IsShortest m e h)
    (hk : (k : ℚ) = m * 2 ^ e) (hle : k ≤ twoTo 53) : d.value = k := by
  rcases le_or_gt e 0 with he | he
  · by_cases hexponent : 0 ≤ d.exponent
    · have hvalue := Decimal.value_of_nonneg hexponent
      rw [hk, hvalue]
      exact (hvalue ▸ hd.near hm).eq_of_whole he
    · -- with a fraction it would have more digits than the number itself
      have hpos : 0 < k := by
        have := mul_pos (Nat.cast_pos (α := ℚ) |>.mpr hm) (two_zpow_pos e)
        rw [← hk] at this
        exact_mod_cast this
      have hfewest := hd.fewest ⟨k, 0⟩ ((Decimal.identifies_iff hm).mpr (by
        rw [Decimal.value, zpow_zero, mul_one, hk]
        exact near_self m e))
      have hleading := (Decimal.leading_le_iff (Decimal.coefficient_pos hm (hd.near hm))).mpr
        (hd.power_le hm (hk ▸ ten_zpow_le_cast hpos))
      rw [Decimal.leading] at hleading
      simp only [Decimal.digits] at hfewest hleading
      omega
  · obtain ⟨rfl, rfl⟩ := eq_power_of_le h he hk hle
    have hdecimal : shortestDecimal (twoTo 52) 1 = ⟨twoTo 53, 0⟩ := by decide +kernel
    rw [(Decimal.isShortest_shortestDecimal h hm).1.unique hm hd, hdecimal, hk, Decimal.value,
      cast_twoTo, cast_twoTo]
    norm_num

end Exact

section Displayed

theorem shownAs_iff (hm : 0 < m) {s : String} : (finite negative m e h).ShownAs s ↔
    ∃ d : Decimal, d.IsShortest m e h ∧
      s = String.ofList (minusText negative ++ javascriptLayout d.digits (d.leading + 1)) := by
  constructor
  · intro hshown
    generalize hx : finite negative m e h = x at hshown
    cases hshown with
    | nan => cases hx
    | infinite => cases hx
    | zero =>
      cases hx
      exact absurd hm (by decide)
    | finite _ _ hd =>
      cases hx
      exact ⟨_, hd, rfl⟩
  · rintro ⟨d, hd, rfl⟩
    exact .finite negative hm hd

theorem intText_signed {k : Nat} (hk : 0 < k) :
    (intText (signed negative k)).toList = minusText negative ++ Nat.toDigits 10 k := by
  obtain ⟨k, rfl⟩ : ∃ l, k = l + 1 := ⟨k - 1, by omega⟩
  cases negative with
  | false =>
    have hof : signed false (k + 1) = .ofNat (k + 1) := rfl
    rw [hof]
    simp [intText, natText, minusText]
  | true =>
    have hneg : signed true (k + 1) = .negSucc k := rfl
    rw [hneg]
    simp [intText, natText, minusText]

/-- In JavaScript a whole number has all its digits if they are its shortest decimal. -/
theorem shownAs_digits_iff {k : Nat} (hm : 0 < m) (hsmall : k < tenTo 21) :
    (finite negative m e h).ShownAs
        (String.ofList (minusText negative ++ Nat.toDigits 10 k)) ↔
      ∃ d : Decimal, d.IsShortest m e h ∧ d.value = k := by
  rw [shownAs_iff hm]
  refine exists_congr fun d => and_congr_right fun hd => ?_
  have hpos := Decimal.coefficient_pos hm (hd.near hm)
  rw [String.ofList_inj, List.append_cancel_left_eq]
  constructor
  · intro htext
    obtain ⟨hexponent, hleading⟩ := whole_of_javascriptLayout fun c hc =>
      isDigit_toDigits (htext ▸ hc)
    rw [javascriptLayout_whole hpos hexponent hleading] at htext
    have hread := congrArg (Nat.ofDigitChars 10 · 0) htext
    simp only [ofDigitChars_toDigits] at hread
    rw [Decimal.value_of_nonneg hexponent, hread]
  · intro hvalue
    have hexponent := hd.exponent_nonneg hm hvalue
    have hwhole : d.coefficient * 10 ^ d.exponent.toNat = k := by
      rw [Decimal.value_of_nonneg hexponent] at hvalue
      exact_mod_cast hvalue
    have hleading : d.leading + 1 ≤ 21 := by
      by_contra hlarge
      have hpower := (Decimal.leading_le_iff hpos).mp (show 21 ≤ d.leading by omega)
      rw [hvalue] at hpower
      have hpower' : 10 ^ 21 ≤ k := by exact_mod_cast hpower
      exact absurd hsmall (not_lt.mpr hpower')
    rw [javascriptLayout_whole hpos hexponent hleading, hwhole]

theorem shortest_zero {h : Canonical 0 (-1074)} : (⟨0, 0⟩ : Decimal).IsShortest 0 (-1074) h where
  identifies := rfl
  fewest d _ := d.length_digits_pos
  nearest d _ _ := by
    rw [Decimal.distance, Decimal.value, Nat.cast_zero, zero_mul, zero_mul, sub_zero, abs_zero]
    exact abs_nonneg _
  even _ _ _ _ _ := rfl

/-- Whole numbers below `1e21` are shown with all their digits, and both zeros without a sign. That
is as JavaScript shows them if and only if the shortest decimal is exact, which it is up to
`2 ^ 53`. -/
theorem displayed_whole_iff (hwhole : (finite negative m e h).whole? = some n)
    (hsmall : n.natAbs < tenTo 21) :
    (Value.float (finite negative m e h)).display = intText n ∧
      ((finite negative m e h).ShownAs (Value.float (finite negative m e h)).display ↔
        ∃ d : Decimal, d.IsShortest m e h ∧ d.value = n.natAbs) ∧
      (n.natAbs ≤ twoTo 53 →
        (finite negative m e h).ShownAs (Value.float (finite negative m e h)).display) := by
  have hdisplay : (Value.float (finite negative m e h)).display = intText n := by
    simp only [Value.display, displayed, hwhole, if_pos hsmall]
  obtain ⟨hk, hn⟩ := whole?_eq_some hwhole
  rw [hdisplay, hn]
  generalize n.natAbs = k at hk hsmall
  rw [natAbs_signed]
  refine ⟨rfl, ?_⟩
  rcases Nat.eq_zero_or_pos m with rfl | hm
  · obtain rfl : e = -1074 := h.2.2.2.resolve_left (by decide)
    obtain rfl : k = 0 := by simpa using hk
    have htext : intText (signed negative 0) = "0" := by cases negative <;> rfl
    have hshown : (finite negative 0 (-1074) h).ShownAs (intText (signed negative 0)) :=
      htext ▸ .zero negative
    exact ⟨iff_of_true hshown ⟨_, shortest_zero, by simp [Decimal.value]⟩, fun _ => hshown⟩
  · have hpos : 0 < k := by
      have hvalue := mul_pos (Nat.cast_pos (α := ℚ) |>.mpr hm) (two_zpow_pos e)
      rw [← hk] at hvalue
      exact_mod_cast hvalue
    have htext : intText (signed negative k) =
        String.ofList (minusText negative ++ Nat.toDigits 10 k) :=
      String.toList_inj.mp (by rw [intText_signed hpos, String.toList_ofList])
    rw [htext]
    refine ⟨shownAs_digits_iff hm hsmall, fun hle => (shownAs_digits_iff hm hsmall).mpr ?_⟩
    obtain ⟨hshortest, -⟩ := Decimal.isShortest_shortestDecimal h hm
    exact ⟨_, hshortest, shortest_eq_of_le hm hshortest hk hle⟩

/-- The number `2 ^ 53` is shown as in JavaScript. -/
theorem displayed_whole_power :
    let x := finite false (twoTo 52) 1 (by decide)
    (Value.float x).display = "9007199254740992" ∧ x.ShownAs "9007199254740992" := by
  intro x
  have hwhole : x.whole? = some (twoTo 53) := by decide
  obtain ⟨hdisplay, -, hshown⟩ := displayed_whole_iff hwhole (by decide)
  have htext : intText (twoTo 53) = "9007199254740992" := by decide
  rw [hdisplay, htext] at hshown
  exact ⟨hdisplay.trans htext, hshown (by decide)⟩

/-- The number `2 ^ 60` is shown with all its nineteen digits, of which sixteen identify it. -/
theorem displayed_whole_inexact :
    let x := finite false (twoTo 52) 8 (by decide)
    (Value.float x).display = "1152921504606846976" ∧ ¬x.ShownAs (Value.float x).display ∧
      x.ShownAs "1152921504606847000" := by
  intro x
  have hm : 0 < twoTo 52 := by decide
  have hdecimal : shortestDecimal (twoTo 52) 8 = ⟨1152921504606847, 3⟩ := by decide +kernel
  obtain ⟨hshortest, -⟩ :=
    Decimal.isShortest_shortestDecimal (m := twoTo 52) (e := 8) (by decide) hm
  rw [hdecimal] at hshortest
  have hdisplay : (Value.float x).display = "1152921504606846976" := by decide
  refine ⟨hdisplay, fun hshown => ?_, (shownAs_iff hm).mpr ⟨_, hshortest, by decide⟩⟩
  obtain ⟨d, hd, htext⟩ := (shownAs_iff hm).mp hshown
  rw [hshortest.unique hm hd, hdisplay] at htext
  exact absurd htext (by decide)

end Displayed

end Double

end ViewModel
