import ViewModel.Json.Reader
import ViewModel.Model.Expr
import ViewModel.Proofs.Number.Shortest

/-!
Decimal numerals and the numbers they denote: digits, perhaps a fraction and perhaps an exponent.
Texts of whole numbers and of finite doubles are such numerals, and they denote those numbers. A
whole numeral denotes the number its digits write, of any length; another one denotes the nearest
double.
-/

namespace ViewModel

/-- An unsigned numeral in parts; an exponent is a sign, `true` for a minus, and digits. -/
structure Numeral where
  whole : List Char
  fraction : List Char
  exponent : Option (Bool × List Char)

namespace Numeral

/-- The part after a point, if there is one. -/
def fractionText (ds : List Char) : List Char := if ds.isEmpty then [] else '.' :: ds

def exponentText : Option (Bool × List Char) → List Char
  | none => []
  | some (negative, ds) => 'e' :: (if negative then '-' else '+') :: ds

def text (n : Numeral) : List Char :=
  n.whole ++ (fractionText n.fraction ++ exponentText n.exponent)

/-- A minus, or nothing. -/
def signText (negative : Bool) : List Char := if negative then ['-'] else []

/-- The power of ten that an exponent stands for. -/
def power (exponent : Option (Bool × List Char)) : Option Int :=
  exponent.map fun e => Double.signed e.1 (Nat.ofDigitChars 10 e.2 0)

/-- The number that the parts write. -/
def decimal (n : Numeral) : Decimal :=
  ⟨Nat.ofDigitChars 10 (n.whole ++ n.fraction) 0, (power n.exponent).getD 0 - n.fraction.length⟩

/-- What a numeral denotes: a whole number, or the double nearest to the number it writes. -/
def denoted (negative : Bool) (n : Numeral) : Scalar :=
  if n.fraction.isEmpty ∧ n.exponent.isNone then
    .int (Double.signed negative (Nat.ofDigitChars 10 n.whole 0))
  else .float (Double.ofDecimal negative n.decimal.coefficient n.decimal.exponent)

/-- Digits everywhere, no leading zero, and some digit in an exponent. -/
structure WellFormed (n : Numeral) : Prop where
  whole : n.whole = ['0'] ∨ n.whole ≠ [] ∧ n.whole.head? ≠ some '0'
  wholeDigits : ∀ c ∈ n.whole, c.isDigit = true
  fractionDigits : ∀ c ∈ n.fraction, c.isDigit = true
  exponent : ∀ e, n.exponent = some e → e.2 ≠ [] ∧ ∀ c ∈ e.2, c.isDigit = true

/-- What an unsigned text denotes, if it is a numeral. -/
def unsigned? (negative : Bool) (cs : List Char) : Option Scalar :=
  match Json.wholeDigits cs with
  | ([], _) => none
  | (whole, r) =>
      let (fraction, r) := Json.fractionDigits r
      match Json.exponentPart r with
      | (exponent, []) =>
          some (if fraction.isEmpty ∧ exponent.isNone then
              .int (Double.signed negative (Nat.ofDigitChars 10 whole 0))
            else
              .float (Double.ofDecimal negative (Nat.ofDigitChars 10 (whole ++ fraction) 0)
                (exponent.getD 0 - fraction.length)))
      | _ => none

/-- What a text denotes, if it is a numeral, perhaps after a minus. -/
def denoted? : List Char → Option Scalar
  | '-' :: cs => unsigned? true cs
  | cs => unsigned? false cs

section Reading

/-- A text that does not go on with a digit. -/
def EndsDigits (r : List Char) : Prop := ∀ c ∈ r.head?, c.isDigit = false

theorem span_digits {ds r : List Char} (hds : ∀ c ∈ ds, c.isDigit = true) (hr : EndsDigits r) :
    (ds ++ r).span Char.isDigit = (ds, r) := by
  rw [List.span_eq_takeWhile_dropWhile, List.takeWhile_append_of_pos hds,
    List.dropWhile_append_of_pos hds]
  cases r with
  | nil => simp
  | cons c r => simp [hr c rfl]

theorem wholeDigits_append {ds r : List Char} (hds : ∀ c ∈ ds, c.isDigit = true)
    (hwhole : ds = ['0'] ∨ ds ≠ [] ∧ ds.head? ≠ some '0') (hr : EndsDigits r) :
    Json.wholeDigits (ds ++ r) = (ds, r) := by
  rcases hwhole with rfl | ⟨hne, hhead⟩
  · rfl
  · obtain ⟨d, ds, rfl⟩ := List.exists_cons_of_ne_nil hne
    have hd : d ≠ '0' := by simpa using hhead
    rw [List.cons_append, Json.wholeDigits, ← List.cons_append, span_digits hds hr]
    simp [hd]

theorem fractionDigits_append {ds r : List Char} (hds : ∀ c ∈ ds, c.isDigit = true)
    (hr : EndsDigits r) (hpoint : r.head? ≠ some '.') :
    Json.fractionDigits (fractionText ds ++ r) = (ds, r) := by
  cases ds with
  | nil =>
    show Json.fractionDigits r = ([], r)
    unfold Json.fractionDigits
    split
    · simp at hpoint
    · rfl
  | cons d ds =>
    rw [fractionText, if_neg (by simp), List.cons_append, Json.fractionDigits, span_digits hds hr]

theorem exponentPart_text {exponent : Option (Bool × List Char)}
    (h : ∀ e, exponent = some e → e.2 ≠ [] ∧ ∀ c ∈ e.2, c.isDigit = true) :
    Json.exponentPart (exponentText exponent) = (power exponent, []) := by
  rcases exponent with _ | ⟨negative, ds⟩
  · rfl
  · obtain ⟨hne, hds⟩ := h _ rfl
    have hspan : ds.span Char.isDigit = (ds, []) := by
      have h := span_digits hds (show EndsDigits [] by simp [EndsDigits])
      rwa [List.append_nil] at h
    obtain ⟨d, ds, rfl⟩ := List.exists_cons_of_ne_nil hne
    cases negative <;> simp only [exponentText, Json.exponentPart, takeSign, hspan, power,
      Option.map_some, if_true, Bool.false_eq_true, if_false]

theorem endsDigits_exponentText (exponent : Option (Bool × List Char)) :
    EndsDigits (exponentText exponent) := by
  rcases exponent with _ | ⟨negative, ds⟩ <;> simp [EndsDigits, exponentText]

theorem endsDigits_fractionText (ds : List Char) {r : List Char} (hr : EndsDigits r) :
    EndsDigits (fractionText ds ++ r) := by
  cases ds with
  | nil => exact hr
  | cons d ds => simp [EndsDigits, fractionText]

theorem WellFormed.exists_cons {n : Numeral} (h : n.WellFormed) : ∃ d ds, n.whole = d :: ds := by
  refine List.exists_cons_of_ne_nil ?_
  rcases h.whole with hzero | ⟨hne, -⟩
  · simp [hzero]
  · exact hne

/-- A numeral is made of digits and a few marks. -/
theorem WellFormed.mem_text {n : Numeral} (h : n.WellFormed) {c : Char} (hc : c ∈ n.text) :
    c.isDigit = true ∨ c ∈ ['.', 'e', '+', '-'] := by
  rcases List.mem_append.mp hc with hc | hc
  · exact .inl (h.wholeDigits c hc)
  rcases List.mem_append.mp hc with hc | hc
  · unfold fractionText at hc
    split at hc
    · cases hc
    · rcases List.mem_cons.mp hc with rfl | hc
      · exact .inr (by simp)
      · exact .inl (h.fractionDigits c hc)
  · cases hn : n.exponent with
    | none =>
      rw [hn] at hc
      cases hc
    | some e =>
      rw [hn, exponentText] at hc
      rcases List.mem_cons.mp hc with rfl | hc
      · exact .inr (by simp)
      rcases List.mem_cons.mp hc with rfl | hc
      · exact .inr (by split <;> simp)
      · exact .inl ((h.exponent e hn).2 c hc)

/-- The text of a numeral denotes what the numeral denotes. -/
theorem unsigned?_text {n : Numeral} (h : n.WellFormed) (negative : Bool) :
    unsigned? negative n.text = some (n.denoted negative) := by
  have hends := endsDigits_exponentText n.exponent
  have hwhole : Json.wholeDigits n.text =
      (n.whole, fractionText n.fraction ++ exponentText n.exponent) :=
    wholeDigits_append h.wholeDigits h.whole (endsDigits_fractionText n.fraction hends)
  have hfraction : Json.fractionDigits (fractionText n.fraction ++ exponentText n.exponent) =
      (n.fraction, exponentText n.exponent) :=
    fractionDigits_append h.fractionDigits hends (by
      rcases n.exponent with _ | ⟨negative, ds⟩ <;> simp [exponentText])
  obtain ⟨d, ds, hcons⟩ := h.exists_cons
  unfold unsigned?
  rw [hwhole, hcons]
  simp only [hfraction, exponentPart_text h.exponent]
  simp [denoted, decimal, hcons, power]

/-- An unsigned numeral has no minus. -/
theorem denoted?_text {n : Numeral} (h : n.WellFormed) :
    denoted? n.text = some (n.denoted false) := by
  have hminus : n.text.head? ≠ some '-' := by
    obtain ⟨d, ds, hcons⟩ := h.exists_cons
    have hdigit := h.wholeDigits d (by simp [hcons])
    intro heq
    obtain rfl : d = '-' := by simpa [text, hcons] using heq
    simp at hdigit
  rw [← unsigned?_text h]
  unfold denoted?
  split
  next heq => simp [heq] at hminus
  next => rfl

theorem denoted?_signed {n : Numeral} (h : n.WellFormed) (negative : Bool) :
    denoted? (signText negative ++ n.text) = some (n.denoted negative) := by
  cases negative with
  | false => exact denoted?_text h
  | true => exact unsigned?_text h true

end Reading

end Numeral

section Digits

/-- The digits of a positive number start with another digit than zero. -/
theorem head?_toDigits {n : Nat} (hn : 0 < n) : (Nat.toDigits 10 n).head? ≠ some '0' := by
  induction n using Nat.strong_induction_on with
  | h n ih =>
    rw [Nat.toDigits_eq_if (by decide)]
    split
    · simp [Nat.digitChar_eq_zero, hn.ne']
    next hlarge =>
      rw [List.head?_append_of_ne_nil _ Nat.toDigits_ne_nil]
      exact ih (n / 10) (by omega) (by omega)

theorem isDigit_toDigits {n : Nat} {c : Char} (h : c ∈ Nat.toDigits 10 n) : c.isDigit = true :=
  Nat.isDigit_of_mem_toDigits (by decide) (by decide) h

theorem isDigit_padded {width n : Nat} {c : Char}
    (h : c ∈ NumberLayout.padded width (Nat.toDigits 10 n)) : c.isDigit = true := by
  rcases List.mem_append.mp h with hzero | hdigit
  · rw [(List.mem_replicate.mp hzero).2]
    rfl
  · exact isDigit_toDigits hdigit

theorem Decimal.digits_ne_nil (d : Decimal) : d.digits ≠ [] := Nat.toDigits_ne_nil

theorem ofDigitChars_toDigits (n : Nat) : Nat.ofDigitChars 10 (Nat.toDigits 10 n) 0 = n :=
  Nat.ofDigitChars_toDigits (by decide) (by decide)

theorem ofDigitChars_zeros (z : Nat) (ds : List Char) :
    Nat.ofDigitChars 10 (List.replicate z '0' ++ ds) 0 = Nat.ofDigitChars 10 ds 0 := by
  rw [Nat.ofDigitChars_append, Nat.ofDigitChars_replicate_zero, Nat.mul_zero]

theorem digitChar_of_isDigit {c : Char} (h : c.isDigit = true) :
    c.toNat - '0'.toNat < 10 ∧ Nat.digitChar (c.toNat - '0'.toNat) = c := by
  obtain ⟨hlow, hhigh⟩ := Bool.and_eq_true_iff.mp h
  have hlow : '0'.toNat ≤ c.toNat := of_decide_eq_true hlow
  have hhigh : c.toNat ≤ '0'.toNat + 9 := of_decide_eq_true hhigh
  have hlt : c.toNat - '0'.toNat < 10 := by omega
  refine ⟨hlt, Char.toNat_inj.mp ?_⟩
  rw [Nat.toNat_digitChar_of_lt_ten hlt]
  exact Nat.add_sub_cancel' hlow

/-- Digits that start with another one than zero are those of the number they write. -/
theorem toDigits_ofDigitChars {ds : List Char} (hne : ds ≠ [])
    (hdigits : ∀ c ∈ ds, c.isDigit = true) (hhead : ds.head? ≠ some '0') :
    Nat.toDigits 10 (Nat.ofDigitChars 10 ds 0) = ds := by
  induction ds using List.reverseRec with
  | nil => exact absurd rfl hne
  | append_singleton ds c ih =>
    obtain ⟨hlt, hc⟩ := digitChar_of_isDigit (hdigits c (by simp))
    rw [Nat.ofDigitChars_append, Nat.ofDigitChars_cons, Nat.ofDigitChars_nil]
    by_cases hds : ds = []
    · rw [hds, Nat.ofDigitChars_nil, Nat.mul_zero, Nat.zero_add, Nat.toDigits_of_lt_base hlt, hc]
      rfl
    · rw [List.head?_append_of_ne_nil _ hds] at hhead
      have hsame := ih hds (fun c hc => hdigits c (List.mem_append_left _ hc)) hhead
      have hpos : 0 < Nat.ofDigitChars 10 ds 0 := by
        refine Nat.pos_of_ne_zero fun hzero => hhead ?_
        rw [← hsame, hzero]
        rfl
      rw [← Nat.toDigits_append_toDigits (by decide) hpos hlt, hsame,
        Nat.toDigits_of_lt_base hlt, hc]

end Digits

namespace Numeral

section Whole

/-- The numeral of a whole number. -/
def ofNat (n : Nat) : Numeral := ⟨Nat.toDigits 10 n, [], none⟩

theorem wellFormed_ofNat (n : Nat) : (ofNat n).WellFormed where
  whole := by
    rcases Nat.eq_zero_or_pos n with rfl | hn
    · exact .inl rfl
    · exact .inr ⟨Nat.toDigits_ne_nil, head?_toDigits hn⟩
  wholeDigits _ := isDigit_toDigits
  fractionDigits := by simp [ofNat]
  exponent := by simp [ofNat]

theorem text_ofNat (n : Nat) : (ofNat n).text = (natText n).toList := by
  simp [text, ofNat, fractionText, exponentText, natText]

theorem denoted_ofNat (negative : Bool) (n : Nat) :
    (ofNat n).denoted negative = .int (Double.signed negative n) := by
  simp [denoted, ofNat]

theorem text_intText (n : Int) :
    (intText n).toList = signText (n < 0) ++ (ofNat n.natAbs).text := by
  cases n with
  | ofNat n =>
    rw [text_ofNat]
    rfl
  | negSucc n =>
    have hnegative : decide (Int.negSucc n < 0) = true := by simp
    rw [hnegative, text_ofNat, intText, String.toList_append]
    rfl

/-- The text of a whole number denotes it. -/
theorem denoted?_intText (n : Int) : denoted? (intText n).toList = some (.int n) := by
  rw [text_intText, denoted?_signed (wellFormed_ofNat _), denoted_ofNat]
  refine congrArg (fun m => some (Scalar.int m)) ?_
  unfold Double.signed
  split
  · next h =>
    have hnegative := of_decide_eq_true h
    omega
  · next h =>
    have hpositive : ¬n < 0 := by simpa using h
    omega

end Whole

section Layout

variable {digits : List Char} {leading : Int}

/-- The numeral of digits that are written around the point. -/
def positional (digits : List Char) (leading : Int) : Numeral :=
  let whole := leading.toNat + 1
  if leading < 0 then ⟨['0'], List.replicate (-leading - 1).toNat '0' ++ digits, none⟩
  else if whole < digits.length then ⟨digits.take whole, digits.drop whole, none⟩
  else ⟨digits ++ List.replicate (whole - digits.length) '0', ['0'], none⟩

/-- The numeral of digits that are written with an exponent. -/
def scientific (digits : List Char) (leading : Int) : Numeral :=
  ⟨digits.take 1, digits.drop 1,
    some (leading < 0, NumberLayout.padded 2 (Nat.toDigits 10 leading.natAbs))⟩

/-- The numeral that the plain layout writes. -/
def ofDigits (digits : List Char) (leading : Int) : Numeral :=
  if NumberLayout.plain.leastPositional ≤ leading ∧ leading < NumberLayout.plain.positionalBelow
  then positional digits leading
  else scientific digits leading

theorem text_positional (hne : digits ≠ []) :
    (positional digits leading).text = NumberLayout.plain.positional digits leading := by
  unfold positional NumberLayout.positional
  split
  · simp [text, fractionText, exponentText, hne]
  · dsimp only
    split
    next hlt => simp [text, fractionText, exponentText, hlt]
    · simp [text, fractionText, exponentText, NumberLayout.plain]

theorem text_scientific (hne : digits ≠ []) :
    (scientific digits leading).text = NumberLayout.plain.scientific digits leading := by
  obtain ⟨c, ds, rfl⟩ := List.exists_cons_of_ne_nil hne
  cases ds <;>
    simp [scientific, NumberLayout.scientific, NumberLayout.plain, text, fractionText, exponentText]

theorem text_ofDigits (hne : digits ≠ []) :
    (ofDigits digits leading).text = NumberLayout.plain.write digits leading := by
  unfold ofDigits NumberLayout.write
  split
  · exact text_positional hne
  · exact text_scientific hne

theorem wellFormed_positional (hne : digits ≠ []) (hhead : digits.head? ≠ some '0')
    (hdigits : ∀ c ∈ digits, c.isDigit = true) : (positional digits leading).WellFormed := by
  have hzeros : ∀ z, ∀ c ∈ List.replicate z '0', c.isDigit = true := by
    intro z c hc
    rw [(List.mem_replicate.mp hc).2]
    rfl
  unfold positional
  split
  · refine ⟨.inl rfl, by simp, fun c hc => ?_, by simp⟩
    exact (List.mem_append.mp hc).elim (hzeros _ c) (hdigits c)
  · dsimp only
    split
    · refine ⟨.inr ⟨by simp [hne], ?_⟩, fun c hc => ?_, fun c hc => ?_, by simp⟩
      · rwa [List.head?_take, if_neg (Nat.succ_ne_zero _)]
      · exact hdigits c (List.mem_of_mem_take hc)
      · exact hdigits c (List.mem_of_mem_drop hc)
    · refine ⟨.inr ⟨by simp [hne], ?_⟩, fun c hc => ?_, by simp, by simp⟩
      · rwa [List.head?_append_of_ne_nil _ hne]
      · exact (List.mem_append.mp hc).elim (hdigits c) (hzeros _ c)

theorem wellFormed_scientific (hne : digits ≠ []) (hhead : digits.head? ≠ some '0')
    (hdigits : ∀ c ∈ digits, c.isDigit = true) : (scientific digits leading).WellFormed where
  whole := .inr ⟨by simp [scientific, hne], by simpa [scientific, List.head?_take] using hhead⟩
  wholeDigits c hc := hdigits c (List.mem_of_mem_take hc)
  fractionDigits c hc := hdigits c (List.mem_of_mem_drop hc)
  exponent := by
    rintro _ ⟨⟩
    refine ⟨?_, fun c => isDigit_padded⟩
    exact List.append_ne_nil_of_right_ne_nil _ Nat.toDigits_ne_nil

theorem wellFormed_ofDigits (hne : digits ≠ []) (hhead : digits.head? ≠ some '0')
    (hdigits : ∀ c ∈ digits, c.isDigit = true) : (ofDigits digits leading).WellFormed := by
  unfold ofDigits
  split
  · exact wellFormed_positional hne hhead hdigits
  · exact wellFormed_scientific hne hhead hdigits

/-- Zeros before the digits count for nothing, each one after them for a power of ten. -/
theorem value_positional (digits : List Char) (leading : Int) :
    (positional digits leading).decimal.value =
      Nat.ofDigitChars 10 digits 0 * 10 ^ (leading + 1 - digits.length) := by
  unfold positional
  split
  next hneg =>
    simp only [decimal, Decimal.value, power, Option.map_none, Option.getD_none,
      List.length_append, List.length_replicate]
    rw [← List.append_assoc, List.singleton_append, ← List.replicate_succ, ofDigitChars_zeros]
    congr 2
    omega
  next hneg =>
    dsimp only
    split
    next hlt =>
      simp only [decimal, Decimal.value, power, Option.map_none, Option.getD_none,
        List.take_append_drop, List.length_drop]
      congr 2
      omega
    next hlt =>
      simp only [decimal, Decimal.value, power, Option.map_none, Option.getD_none,
        List.append_assoc, List.length_singleton]
      rw [← List.replicate_succ', Nat.ofDigitChars_append, Nat.ofDigitChars_replicate_zero,
        Nat.cast_mul, mul_comm ((10 ^ _ : Nat) : ℚ), mul_assoc, Nat.cast_pow, ← zpow_natCast]
      congr 1
      rw [show ((10 : Nat) : ℚ) = 10 from rfl, ← Double.ten_zpow_add]
      congr 1
      omega

theorem value_scientific (hne : digits ≠ []) :
    (scientific digits leading).decimal.value =
      Nat.ofDigitChars 10 digits 0 * 10 ^ (leading + 1 - digits.length) := by
  have hpos : 0 < digits.length := List.length_pos_iff.mpr hne
  have hpower : Double.signed (decide (leading < 0)) leading.natAbs = leading := by
    simp only [Double.signed, decide_eq_true_eq]
    split <;> omega
  simp only [scientific, decimal, Decimal.value, power, Option.map_some, Option.getD_some,
    List.take_append_drop, List.length_drop, NumberLayout.padded, ofDigitChars_zeros,
    ofDigitChars_toDigits, hpower]
  congr 2
  omega

theorem value_ofDigits (hne : digits ≠ []) :
    (ofDigits digits leading).decimal.value =
      Nat.ofDigitChars 10 digits 0 * 10 ^ (leading + 1 - digits.length) := by
  unfold ofDigits
  split
  · exact value_positional digits leading
  · exact value_scientific hne

/-- A numeral of the plain layout shows that it is fractional. -/
theorem denoted_ofDigits (hne : digits ≠ []) (negative : Bool) :
    (ofDigits digits leading).denoted negative = .float (Double.ofDecimal negative
      (ofDigits digits leading).decimal.coefficient
      (ofDigits digits leading).decimal.exponent) := by
  rw [denoted, if_neg]
  unfold ofDigits
  split
  · unfold positional
    split
    · simp [hne]
    · dsimp only
      split
      next hlt => simp [hlt]
      · simp
  · simp [scientific]

end Layout

section Floats

/-- The numeral that the plain layout writes for a decimal. -/
def ofDecimal (d : Decimal) : Numeral := ofDigits d.digits d.leading

theorem value_ofDecimal (d : Decimal) : (ofDecimal d).decimal.value = d.value := by
  rw [ofDecimal, value_ofDigits d.digits_ne_nil, Decimal.digits, ofDigitChars_toDigits,
    Decimal.value, Decimal.leading, Decimal.digits]
  congr 2
  omega

/-- A decimal near a double is written as a numeral of that double. -/
theorem denoted_ofDecimal {d : Decimal} {m : Nat} {e : Int} (negative : Bool)
    (h : Canonical m e) (hm : 0 < m) (hnear : Double.Near m e d.value) :
    (ofDecimal d).WellFormed ∧
      (ofDecimal d).denoted negative = .float (.finite negative m e h) := by
  have hpos : 0 < d.coefficient := by
    refine Nat.pos_of_ne_zero fun hzero => ?_
    have := hnear.pos hm
    rw [Decimal.value, hzero] at this
    simp at this
  rw [← value_ofDecimal d] at hnear
  refine ⟨wellFormed_ofDigits d.digits_ne_nil (head?_toDigits hpos) fun _ => isDigit_toDigits, ?_⟩
  rw [ofDecimal, denoted_ofDigits d.digits_ne_nil]
  exact congrArg Scalar.float (Double.ofDecimal_eq negative h hm hnear)

/-- A finite double is written as a numeral that denotes it, with either sign. -/
theorem text_finite (negative : Bool) {m : Nat} {e : Int} (h : Canonical m e) :
    ∃ n : Numeral, n.WellFormed ∧
      (Double.finite negative m e h).text.toList = signText negative ++ n.text ∧
      ∀ sign, n.denoted sign = .float (.finite sign m e h) := by
  rcases Nat.eq_zero_or_pos m with rfl | hm
  · -- zero has one exponent and no shortest digits
    obtain rfl : e = -1074 := h.2.2.2.resolve_left (by decide)
    refine ⟨⟨['0'], ['0'], none⟩, ⟨.inl rfl, by simp, by simp, by simp⟩, ?_, fun sign => ?_⟩
    · show (Double.zero negative).text.toList = _
      cases negative <;> decide +kernel
    · show _ = Scalar.float (.zero sign)
      cases sign <;> decide +kernel
  · have hnear := near_shortestDecimal h hm
    refine ⟨ofDecimal (shortestDecimal m e), (denoted_ofDecimal false h hm hnear).1, ?_,
      fun sign => (denoted_ofDecimal sign h hm hnear).2⟩
    rw [ofDecimal, text_ofDigits (Decimal.digits_ne_nil _), Double.text]
    cases negative <;> simp [signText]

/-- The text of a finite double denotes it. -/
theorem denoted?_float {x : Double} (h : x.isFinite = true) :
    denoted? x.text.toList = some (.float x) := by
  obtain _ | _ | ⟨negative, m, e, hcanonical⟩ := x
  · cases h
  · cases h
  obtain ⟨n, hwell, htext, hdenoted⟩ := text_finite negative hcanonical
  rw [htext, denoted?_signed hwell, hdenoted]

end Floats

end Numeral

end ViewModel
