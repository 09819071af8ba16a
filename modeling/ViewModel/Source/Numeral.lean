import ViewModel.Number.Text
import ViewModel.Source.Token

/-!
Number literals: digits in base ten, or after `0x`, `0o` and `0b` in another base, with single
underscores between digits; fractions, exponents and imaginary numbers in base ten only.
-/

namespace ViewModel.Source

def isWordStart (c : Char) : Bool := c.isAlpha || c = '_' || 128 ≤ c.toNat

def isWordPart (c : Char) : Bool := c.isAlphanum || c = '_' || 128 ≤ c.toNat

/-- Whether a word that may stand directly after a number starts these characters. All but
those with `i` have to end there. -/
def startsAfterNumber (cs : List Char) : Bool :=
  ["if", "in", "is"].any (·.toList.isPrefixOf cs) ||
    ["and", "else", "for", "not", "or"].any (fun w =>
      w.toList.isPrefixOf cs && !(cs.drop w.length).head?.any isWordPart)

/-- Whether a number may end before these characters: not before ASCII letters, unless they start
a word that may follow. -/
def endsNumber (cs : List Char) : Bool :=
  match cs with
  | [] => true
  | c :: _ => !(c.isAlphanum || c = '_') || startsAfterNumber cs

def digitValue (c : Char) : Nat :=
  if c.isDigit then c.toNat - '0'.toNat
  else if 'a' ≤ c ∧ c ≤ 'f' then c.toNat - 'a'.toNat + 10
  else if 'A' ≤ c ∧ c ≤ 'F' then c.toNat - 'A'.toNat + 10
  else 99

def digitsValue (base : Nat) (ds : List Char) : Nat :=
  ds.foldl (fun n d => base * n + digitValue d) 0

/-- Digits with single underscores between them; `none` if an underscore has no digit after it. -/
def digitRun? (isDigit : Char → Bool) : List Char → Option (List Char × List Char)
  | [] => some ([], [])
  | '_' :: c :: rest =>
      if isDigit c then (digitRun? isDigit rest).map (fun (ds, r) => (c :: ds, r)) else none
  | '_' :: [] => none
  | c :: rest =>
      if isDigit c then (digitRun? isDigit rest).map (fun (ds, r) => (c :: ds, r))
      else some ([], c :: rest)

/-- The digits after `0x`, `0o` or `0b`. -/
def radix? (base : Nat) (cs : List Char) : Option (Token × List Char) := do
  let (ds, r) ← digitRun? (fun c => digitValue c < base) cs
  if ds.isEmpty || (r.head?.any Char.isDigit) || !endsNumber r then none
  else some (.number (.int (digitsValue base ds)), r)

/-- The digits of a fraction or of an exponent: none at all, or a run that starts with a digit. -/
def plainRun? (cs : List Char) : Option (List Char × List Char) :=
  match cs with
  | c :: _ => if c.isDigit then digitRun? Char.isDigit cs else some ([], cs)
  | [] => some ([], [])

/-- The exponent of a decimal number; `some (none, _)` where there is none. -/
def exponent? (cs : List Char) : Option (Option Int × List Char) :=
  match cs with
  | 'e' :: rest | 'E' :: rest =>
      match rest with
      | '+' :: r | '-' :: r =>
          match plainRun? r with
          | some (d :: ds, r') =>
              some (some (Double.signed (rest.head? == some '-') (Nat.ofDigitChars 10 (d :: ds) 0)),
                r')
          | _ => none
      | _ =>
          match plainRun? rest with
          | some (d :: ds, r') => some (some (Nat.ofDigitChars 10 (d :: ds) 0 : Nat), r')
          | some ([], _) => if endsNumber cs then some (none, cs) else none
          | none => none
  | _ => some (none, cs)

/-- A decimal number, whole or not. A whole number other than zero has no leading zero. -/
def decimal? (cs : List Char) : Option (Token × List Char) := do
  let (whole, r) ← plainRun? cs
  let (point, fraction, r) ←
    match r with
    | '.' :: r => (plainRun? r).map (fun (ds, r) => (true, ds, r))
    | _ => some (false, [], r)
  let (exponent, r) ← exponent? r
  match r with
  | 'j' :: r | 'J' :: r => if endsNumber r then some (.number .imaginary, r) else none
  | _ =>
      if !endsNumber r then none
      else if point || exponent.isSome then
        some (.number (.float (Double.ofDecimal false (Nat.ofDigitChars 10 (whole ++ fraction) 0)
          (exponent.getD 0 - fraction.length))), r)
      else if whole.head? = some '0' ∧ whole.any (· ≠ '0') then none
      else if 4300 < whole.length then some (.overlong, r)
      else some (.number (.int (Nat.ofDigitChars 10 whole 0)), r)

/-- A number literal and what follows it. -/
def numeral? (cs : List Char) : Option (Token × List Char) :=
  match cs with
  | '0' :: 'x' :: rest | '0' :: 'X' :: rest => radix? 16 rest
  | '0' :: 'o' :: rest | '0' :: 'O' :: rest => radix? 8 rest
  | '0' :: 'b' :: rest | '0' :: 'B' :: rest => radix? 2 rest
  | _ => decimal? cs

end ViewModel.Source
