import ViewModel.Number.Text

/-!
Numbers as pages show them: whole numbers without a fraction up to `1e21`, and small fractions
without an exponent down to `1e-6`.
-/

namespace ViewModel

/-- A fraction or a huge number shown from its shortest text. -/
def relay (text : List Char) : List Char :=
  let mantissa := text.takeWhile (· ≠ 'e')
  match text.dropWhile (· ≠ 'e') with
  | [] => mantissa
  | _ :: exponent =>
      let (negative, digits) := takeSign exponent
      let power := Nat.ofDigitChars 10 digits 0
      if negative && power < 7 then
        let sign := if mantissa.head? = some '-' then ['-'] else []
        sign ++ ['0', '.'] ++ List.replicate (power - 1) '0'
          ++ mantissa.filter (fun c => c ≠ '-' && c ≠ '.')
      else mantissa ++ ['e', if negative then '-' else '+'] ++ Nat.toDigits 10 power

namespace Double

/-- The text of a number on a page. -/
def displayed : Double → String
  | nan => "NaN"
  | infinite negative => if negative then "-Infinity" else "Infinity"
  | x =>
      match x.whole? with
      | some n => if n.natAbs < tenTo 21 then intText n else String.ofList (relay x.text.toList)
      | none => String.ofList (relay x.text.toList)

end Double

end ViewModel
