import ViewModel.Number.Double

/-!
The decimal number with the fewest digits that rounds to a given double. For each count of digits
the two neighbours of the double on that decimal grid are tried in exact arithmetic; the first
grid with a hit wins, of two hits the nearer one, and a tie goes to the even neighbour.
-/

namespace ViewModel

/-- The number `coefficient * 10 ^ exponent`. -/
structure Decimal where
  coefficient : Nat
  exponent : Int
  deriving DecidableEq, Repr

namespace Decimal

/-- Moves trailing zeros of the coefficient into the exponent. -/
def trim (coefficient : Nat) (exponent : Int) : Decimal :=
  if h : 0 < coefficient ∧ coefficient % 10 = 0 then
    trim (coefficient / 10) (exponent + 1)
  else ⟨coefficient, exponent⟩
termination_by coefficient
decreasing_by omega

/-- The decimal digits of the coefficient. -/
def digits (d : Decimal) : List Char := Nat.toDigits 10 d.coefficient

/-- The power of ten of the first digit. -/
def leading (d : Decimal) : Int := d.exponent + d.digits.length - 1

end Decimal

/-- The numbers that round to one double: those between `low / unit` and `high / unit`, the ends
included when `closed`. The double itself is `value / unit`. -/
structure RoundingInterval where
  low : Nat
  value : Nat
  high : Nat
  unit : Nat
  closed : Bool

namespace RoundingInterval

/-- The interval of `m * 2 ^ e` in quarters of its last place; the gap below a power of two is
half as wide. -/
def ofFinite (m : Nat) (e : Int) : RoundingInterval :=
  let below := if m = twoTo 52 ∧ -1074 < e then 1 else 2
  let up := twoTo (e - 2).toNat
  { low := (4 * m - below) * up
    value := 4 * m * up
    high := (4 * m + 2) * up
    unit := twoTo (2 - e).toNat
    closed := m % 2 = 0 }

/-- `c * 10 ^ k` as a fraction: numerator and the factor that the interval's ends get. -/
def place (i : RoundingInterval) (k : Int) (c : Nat) : Nat × Nat :=
  (c * tenTo k.toNat * i.unit, tenTo (-k).toNat)

def contains (i : RoundingInterval) (k : Int) (c : Nat) : Bool :=
  let (n, f) := i.place k c
  if i.closed then i.low * f ≤ n && n ≤ i.high * f else i.low * f < n && n < i.high * f

/-- The greatest `c` with `c * 10 ^ k` at most the double. -/
def below (i : RoundingInterval) (k : Int) : Nat :=
  i.value * tenTo (-k).toNat / (tenTo k.toNat * i.unit)

/-- Whether `c + 1` is nearer to the double than `c`; a tie goes to the even one. -/
def upperNearer (i : RoundingInterval) (k : Int) (c : Nat) : Bool :=
  let twice := 2 * i.value * tenTo (-k).toNat
  let middle := (2 * c + 1) * tenTo k.toNat * i.unit
  middle < twice || (middle == twice && c % 2 == 1)

/-- The point of the grid with step `10 ^ k` that rounds to the double, if there is one. -/
def hit? (i : RoundingInterval) (k : Int) : Option Nat :=
  let c := i.below k
  match i.contains k c, i.contains k (c + 1) with
  | true, true => some (if i.upperNearer k c then c + 1 else c)
  | true, false => some c
  | false, true => some (c + 1)
  | false, false => none

/-- The count of digits before the point, zero or negative for a number below one. -/
def magnitude (i : RoundingInterval) : Int :=
  (Nat.toDigits 10 (i.value * tenTo 400 / i.unit)).length - 400

/-- Tries grids of `n`, `n + 1`, … digits. -/
def search (i : RoundingInterval) (top : Int) : Nat → Nat → Decimal
  | n, 0 => ⟨i.below (top - n), top - n⟩
  | n, tries + 1 =>
      match i.hit? (top - n) with
      | some c => Decimal.trim c (top - n)
      | none => i.search top (n + 1) tries

end RoundingInterval

/-- The decimal that stands for the finite number `m * 2 ^ e`; seventeen digits always suffice. -/
def shortestDecimal (m : Nat) (e : Int) : Decimal :=
  if m = 0 then ⟨0, 0⟩
  else
    let i := RoundingInterval.ofFinite m e
    i.search i.magnitude 1 17

example : shortestDecimal 1 (-1074) = ⟨5, -324⟩ := by decide +kernel

example : shortestDecimal (twoTo 52) 0 = ⟨4503599627370496, 0⟩ := by decide +kernel

end ViewModel
