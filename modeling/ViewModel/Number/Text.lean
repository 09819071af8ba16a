import ViewModel.Number.Decimal
import ViewModel.Text.Digits

/-!
Texts of numbers. A `NumberLayout` says how the digits of a number are laid out; `Double.text`
uses the layout of manifests and source text, and `Double.ofText?` reads any usual spelling back.
-/

namespace ViewModel

/-- The decimal text of a count. -/
def natText (n : Nat) : String := String.ofList (Nat.toDigits 10 n)

/-- The decimal text of a whole number. -/
def intText : Int → String
  | .ofNat n => natText n
  | .negSucc n => "-" ++ natText (n + 1)

/-- How digits become text. A number whose first digit stands at a power of ten between
`leastPositional` and `positionalBelow` is written without an exponent. -/
structure NumberLayout where
  leastPositional : Int
  positionalBelow : Int
  /-- A whole number written positionally keeps `.0`. -/
  pointZero : Bool
  /-- The exponent has at least this many digits. -/
  exponentWidth : Nat

namespace NumberLayout

/-- Whole numbers show that they are fractional; the exponent has at least two digits. -/
def plain : NumberLayout := ⟨-4, 16, true, 2⟩

def positional (l : NumberLayout) (digits : List Char) (leading : Int) : List Char :=
  if leading < 0 then
    ['0', '.'] ++ List.replicate (-leading - 1).toNat '0' ++ digits
  else
    let whole := leading.toNat + 1
    if whole < digits.length then digits.take whole ++ '.' :: digits.drop whole
    else
      digits ++ List.replicate (whole - digits.length) '0' ++
        (if l.pointZero then ['.', '0'] else [])

def padded (width : Nat) (digits : List Char) : List Char :=
  List.replicate (width - digits.length) '0' ++ digits

def scientific (l : NumberLayout) (digits : List Char) (leading : Int) : List Char :=
  let mantissa :=
    match digits with
    | d :: e :: rest => d :: '.' :: e :: rest
    | short => short
  mantissa ++ ['e', if leading < 0 then '-' else '+'] ++
    padded l.exponentWidth (Nat.toDigits 10 leading.natAbs)

/-- The text of the number with these digits, the first of them at the power of ten `leading`. -/
def write (l : NumberLayout) (digits : List Char) (leading : Int) : List Char :=
  if l.leastPositional ≤ leading ∧ leading < l.positionalBelow then l.positional digits leading
  else l.scientific digits leading

end NumberLayout

namespace Double

/-- The shortest text that reads back as the number. -/
def text : Double → String
  | nan => "nan"
  | infinite true => "-inf"
  | infinite false => "inf"
  | finite s m e _ =>
      let d := shortestDecimal m e
      (if s then "-" else "") ++ String.ofList (NumberLayout.plain.write d.digits d.leading)

end Double

/-- Reads digits that may be separated by single underscores; the value, how many there are, and
the rest. -/
def takeDigits : List Char → List Char × List Char
  | [] => ([], [])
  | '_' :: c :: rest =>
      if c.isDigit then
        let (ds, r) := takeDigits rest
        (c :: ds, r)
      else ([], '_' :: c :: rest)
  | c :: rest =>
      if c.isDigit then
        let (ds, r) := takeDigits rest
        (c :: ds, r)
      else ([], c :: rest)

/-- Digits, of which the first does not follow an underscore. -/
def takeNumber (cs : List Char) : List Char × List Char :=
  match cs with
  | '_' :: _ => ([], cs)
  | _ => takeDigits cs

/-- An optional sign; `true` for a minus. -/
def takeSign : List Char → Bool × List Char
  | '-' :: rest => (true, rest)
  | '+' :: rest => (false, rest)
  | cs => (false, cs)

namespace Double

/-- An exponent part, if one stands here. -/
def takeExponent (cs : List Char) : Int × List Char :=
  match cs with
  | 'e' :: rest | 'E' :: rest =>
      let (negative, unsigned) := takeSign rest
      match takeNumber unsigned with
      | ([], _) => (0, cs)
      | (ds, r) => (signed negative (Nat.ofDigitChars 10 ds 0), r)
  | _ => (0, cs)

/-- Reads an unsigned decimal number and gives the rest of the text. -/
def takeDecimal? (negative : Bool) (cs : List Char) : Option (Double × List Char) :=
  let (whole, r) := takeNumber cs
  let (fraction, r) :=
    match r with
    | '.' :: r' => takeNumber r'
    | _ => ([], r)
  if whole.isEmpty ∧ fraction.isEmpty then none
  else
    let (exponent, r) := takeExponent r
    some (ofDecimal negative (Nat.ofDigitChars 10 (whole ++ fraction) 0)
      (exponent - fraction.length), r)

/-- Reads a whole text as a number: decimal digits of any script, or `inf`, `infinity` and `nan` in
any case. -/
def ofChars? (cs : List Char) : Option Double :=
  let (negative, unsigned) := takeSign (cs.map Text.plainDigit)
  let word := String.ofList (unsigned.map Char.toLower)
  if word = "inf" ∨ word = "infinity" then some (infinite negative)
  else if word = "nan" then some nan
  else
    match takeDecimal? negative unsigned with
    | some (x, []) => some x
    | _ => none

def ofText? (s : String) : Option Double := ofChars? s.toList

end Double

example : (Double.ofText? "0.1").map Double.text = some "0.1" := by decide +kernel

end ViewModel
