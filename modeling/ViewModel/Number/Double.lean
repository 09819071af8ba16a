/-!
Binary64 numbers. A finite number is a sign, a significand and an exponent in canonical form, so
that it has one representation. Comparison is exact, and `ofQuotient` rounds a quotient to the
nearest number, a half to the even neighbour.
-/

namespace ViewModel

def twoTo (n : Nat) : Nat := Nat.pow 2 n

def tenTo (n : Nat) : Nat := Nat.pow 10 n

/-- Significand and exponent of a finite number: 53 bits, fewer only at the least exponent. -/
def Canonical (significand : Nat) (exponent : Int) : Prop :=
  significand < twoTo 53 ∧ -1074 ≤ exponent ∧ exponent ≤ 971 ∧
    (twoTo 52 ≤ significand ∨ exponent = -1074)

instance (significand : Nat) (exponent : Int) : Decidable (Canonical significand exponent) :=
  inferInstanceAs (Decidable (_ ∧ _ ∧ _ ∧ (_ ∨ _)))

/-- `finite s m e _` is the number `±m * 2 ^ e`. -/
inductive Double
  | nan
  | infinite (negative : Bool)
  | finite (negative : Bool) (significand : Nat) (exponent : Int)
      (canonical : Canonical significand exponent)
  deriving DecidableEq

/-- Where a number stands on the extended line, in multiples of the least positive double. -/
inductive Position
  | bottom
  | units (n : Int)
  | top
  deriving DecidableEq

namespace Position

def lt : Position → Position → Bool
  | bottom, bottom => false
  | bottom, _ => true
  | units a, units b => a < b
  | units _, top => true
  | _, _ => false

@[simp] theorem lt_units (a b : Int) : lt (units a) (units b) = decide (a < b) := rfl

/-- The position of a whole number. -/
def ofInt (n : Int) : Position := units (n * twoTo 1074)

end Position

namespace Double

def zero (negative : Bool) : Double := finite negative 0 (-1074) (by decide)

instance : Inhabited Double := ⟨zero false⟩

def neg : Double → Double
  | nan => nan
  | infinite s => infinite !s
  | finite s m e h => finite (!s) m e h

@[simp] theorem neg_neg (x : Double) : x.neg.neg = x := by
  cases x <;> simp [neg]

def isFinite : Double → Bool
  | finite .. => true
  | _ => false

/-- Negates `n` when the sign says so. -/
def signed (negative : Bool) (n : Nat) : Int := if negative then -n else n

/-- NaN stands nowhere. -/
def position? : Double → Option Position
  | nan => none
  | infinite true => some .bottom
  | infinite false => some .top
  | finite s m e _ => some (.units (signed s (m * twoTo (e + 1074).toNat)))

@[simp] theorem position?_eq_none_iff (x : Double) : x.position? = none ↔ x = nan := by
  cases x with
  | nan => simp [position?]
  | infinite s => cases s <;> simp [position?]
  | finite => simp [position?]

/-- The whole number that a double equals, if there is one. -/
def whole? : Double → Option Int
  | finite s m e _ =>
      if 0 ≤ e then some (signed s (m * twoTo e.toNat))
      else if m % twoTo (-e).toNat = 0 then some (signed s (m / twoTo (-e).toNat))
      else none
  | _ => none

/-- `num / den` rounded to a whole number, a half to the even neighbour. -/
def roundHalfEven (num den : Nat) : Nat :=
  let q := num / den
  let twice := 2 * (num % den)
  if den < twice ∨ (twice = den ∧ q % 2 = 1) then q + 1 else q

/-- `m * 2 ^ e` where that is canonical, otherwise the overflow. -/
def pack (negative : Bool) (m : Nat) (e : Int) : Double :=
  if h : Canonical m e then finite negative m e h else infinite negative

/-- `num / den` in multiples of `2 ^ e`, as a quotient. -/
def scaled (num den : Nat) (e : Int) : Nat × Nat :=
  if 0 ≤ e then (num, den * twoTo e.toNat) else (num * twoTo (-e).toNat, den)

/-- The exponent at which `num / den` has 53 bits before its point, or the least exponent. -/
def exponentOf (num den : Nat) : Int :=
  let guess : Int := (num.log2 : Int) - den.log2 - 53
  let fits := (scaled num den guess).1 / (scaled num den guess).2 < twoTo 53
  max (-1074) (if fits then guess else guess + 1)

/-- The double nearest to `num / den`. -/
def ofQuotient (negative : Bool) (num den : Nat) : Double :=
  if num = 0 then zero negative
  else
    let e := exponentOf num den
    let m := roundHalfEven (scaled num den e).1 (scaled num den e).2
    if m = twoTo 53 then pack negative (twoTo 52) (e + 1) else pack negative m e

/-- The double nearest to `coefficient * 10 ^ exponent`. Exponents beyond the range of doubles
are settled without computing the power. -/
def ofDecimal (negative : Bool) (coefficient : Nat) (exponent : Int) : Double :=
  let magnitude := exponent + (Nat.toDigits 10 coefficient).length
  if coefficient = 0 then zero negative
  else if 400 < magnitude then infinite negative
  else if magnitude < -400 then zero negative
  else if 0 ≤ exponent then ofQuotient negative (coefficient * tenTo exponent.toNat) 1
  else ofQuotient negative coefficient (tenTo (-exponent).toNat)

end Double

end ViewModel
