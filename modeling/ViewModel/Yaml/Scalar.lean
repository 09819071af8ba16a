import ViewModel.Text.Hex
import ViewModel.Yaml.Datum

/-!
What a scalar without quotes stands for. Its form decides: a truth value, a number in one of five
notations, null, a date, or else a text.
-/

namespace ViewModel.Yaml

/-- `merge` and `default` are the keys `<<` and `=`, which stand for no datum; a scalar in the form
of a number or a date may be none, and is `unreadable` then. -/
inductive Scalar
  | datum (d : Datum)
  | merge
  | default
  | unreadable

namespace Scalar

def nullWords : List String := ["", "~", "null", "Null", "NULL"]

def trueWords : List String :=
  ["yes", "Yes", "YES", "true", "True", "TRUE", "on", "On", "ON"]

def falseWords : List String :=
  ["no", "No", "NO", "false", "False", "FALSE", "off", "Off", "OFF"]

/-- Underscores may stand among the digits of a number. -/
def isDigitOrMark (c : Char) : Bool := c.isDigit || c = '_'

def unmarked (cs : List Char) : List Char := cs.filter (· ≠ '_')

def isOctal (c : Char) : Bool := '0' ≤ c && c ≤ '7'

/-- The number with these digits, where they make one. -/
def radix? (isDigit : Char → Bool) (value? : List Char → Option Nat) (cs : List Char) :
    Option (Option Nat) :=
  if !cs.isEmpty && cs.all (fun c => isDigit c || c = '_') then
    some (if (unmarked cs).isEmpty then none else value? (unmarked cs))
  else none

def decimal? (cs : List Char) : Option Nat :=
  match cs with
  | c :: rest =>
      if c.isDigit && rest.all isDigitOrMark then some (Nat.ofDigitChars 10 (unmarked cs) 0)
      else none
  | [] => none

/-- One place of a number in base sixty. -/
def sixtieth? : List Char → Option Nat
  | [c] => if c.isDigit then some (c.toNat - '0'.toNat) else none
  | [c, d] =>
      if '0' ≤ c ∧ c ≤ '5' ∧ d.isDigit then some (Nat.ofDigitChars 10 [c, d] 0) else none
  | _ => none

/-- The places of a number in base sixty, at least two, with colons between them. -/
def sexagesimal? (cs : List Char) : Option (List Nat) :=
  match cs.splitOn ':' with
  | first :: second :: rest => do
      return (← decimal? first) :: (← (second :: rest).mapM sixtieth?)
  | _ => none

/-- An unsigned whole number; the inner `none` is a notation without digits. -/
def whole? (cs : List Char) : Option (Option Nat) :=
  match cs with
  | '0' :: 'b' :: ds => radix? (fun c => c = '0' || c = '1') (some <| Nat.ofDigitChars 2 · 0) ds
  | '0' :: 'x' :: ds => radix? (fun c => (Text.hexDigit? c).isSome) Text.hexValue? ds
  | ['0'] => some (some 0)
  | '0' :: ds =>
      if ds.all (fun c => isOctal c || c = '_') then
        some (some (Nat.ofDigitChars 8 (unmarked ds) 0))
      else none
  | _ =>
      match decimal? cs with
      | some n => some (some n)
      | none => (sexagesimal? cs).map (fun ds => some (ds.foldl (fun n d => 60 * n + d) 0))

/-- The double nearest to `n` multiples of the least positive double. -/
def ofUnits (n : Nat) : Double := .ofQuotient false n (twoTo 1074)

def units (x : Double) : Nat :=
  match x.position? with
  | some (.units n) => n.natAbs
  | _ => 0

/-- The places of a number in base sixty, last place first, added up with rounding. -/
def sexagesimalFloat (base : Nat) (sum : Double) : List Double → Double
  | [] => sum
  | x :: rest =>
      let part := ofUnits (units x * base)
      sexagesimalFloat (60 * base) (ofUnits (units sum + units part)) rest

/-- An exponent with its sign, or nothing. -/
def isExponent : List Char → Bool
  | [] => true
  | e :: sign :: ds =>
      (e = 'e' || e = 'E') && (sign = '-' || sign = '+') && !ds.isEmpty && ds.all Char.isDigit
  | _ => false

/-- An unsigned fractional number; one that starts with its point has no sign. -/
def fraction? (hasSign : Bool) (cs : List Char) : Option Double :=
  let whole := cs.takeWhile (· ≠ '.')
  match cs.drop whole.length with
  | '.' :: rest =>
      let places := rest.takeWhile isDigitOrMark
      let exponent := rest.drop places.length
      if !isExponent exponent then none
      else if whole.isEmpty then
        if hasSign || !(places.head?.any Char.isDigit) then none
        else Double.ofChars? (unmarked cs)
      else if (decimal? whole).isSome then Double.ofChars? (unmarked cs)
      else if !exponent.isEmpty then none
      else do
        let parts ← sexagesimal? whole
        let last ← parts.getLast?
        let lowest ← Double.ofChars? (Nat.toDigits 10 last ++ '.' :: unmarked places)
        let higher := parts.dropLast.reverse.map (fun n => Double.ofQuotient false n 1)
        return sexagesimalFloat 1 (.zero false) (lowest :: higher)
  | _ => none

def number? (cs : List Char) : Option Scalar :=
  let (negative, unsigned) := takeSign cs
  let hasSign := unsigned.length < cs.length
  match whole? unsigned with
  | some (some n) => some (.datum (.int (Double.signed negative n)))
  | some none => some .unreadable
  | none =>
      if unsigned ∈ [".inf", ".Inf", ".INF"].map String.toList then
        some (.datum (.float (.infinite negative)))
      else if !hasSign && unsigned ∈ [".nan", ".NaN", ".NAN"].map String.toList then
        some (.datum (.float .nan))
      else (fraction? hasSign unsigned).map
        (fun x => .datum (.float (if negative then x.neg else x)))

def time? (cs : List Char) : Option Scalar :=
  (Time.ofChars? cs).map (fun t => if t.isValid then .datum (.time t) else .unreadable)

/-- What a scalar without quotes stands for. -/
def ofPlain (s : String) : Scalar :=
  if s ∈ nullWords then .datum .null
  else if s ∈ trueWords then .datum (.bool true)
  else if s ∈ falseWords then .datum (.bool false)
  else if s = "<<" then .merge
  else if s = "=" then .default
  else ((number? s.toList).or (time? s.toList)).getD (.datum (.text s))

/-- Whether a text means itself without quotes. -/
def isText (s : String) : Bool :=
  match ofPlain s with
  | .datum (.text _) => true
  | _ => false

end Scalar

example : ["0o7", "017", "1_000", "1:30", "-.5", "+.inf", "1e5"].map Scalar.isText =
    [true, false, false, false, true, false, true] := by decide +kernel

end ViewModel.Yaml
