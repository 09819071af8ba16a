/-!
Hexadecimal numbers.
-/

namespace ViewModel.Text

/-- `n` in hexadecimal, at least `width` digits. -/
def hex (width n : Nat) : List Char :=
  let ds := Nat.toDigits 16 n
  List.replicate (width - ds.length) '0' ++ ds

def hexDigit? (c : Char) : Option Nat :=
  if '0' ≤ c ∧ c ≤ '9' then some (c.toNat - '0'.toNat)
  else if 'a' ≤ c ∧ c ≤ 'f' then some (c.toNat - 'a'.toNat + 10)
  else if 'A' ≤ c ∧ c ≤ 'F' then some (c.toNat - 'A'.toNat + 10)
  else none

/-- The number with these digits; `none` if one of them is no digit. -/
def hexValue? (cs : List Char) : Option Nat :=
  cs.foldlM (fun n c => (hexDigit? c).map (16 * n + ·)) 0

/-- The character of a code point; a surrogate shows as a replacement. -/
def character (n : Nat) : Char := if n.isValidChar then Char.ofNat n else '\uFFFD'

end ViewModel.Text
