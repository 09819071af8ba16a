import ViewModel.Proofs.Number.Numeral
import ViewModel.Proofs.Target.Phrase
import ViewModel.Proofs.Text.Quotation
import ViewModel.Target.ClassFile

/-!
What a text denotes as a literal of a target. A literal is a numeral, a text between quotes or one
of three words; the targets differ in the words, and in the escapes of a text. Every constant has a
literal but the floats that are not finite.
-/

namespace ViewModel

namespace Target

/-- The words for null and for the truth values. -/
def words : Target → List (String × Scalar)
  | python => [("None", .null), ("True", .bool true), ("False", .bool false)]
  | _ => [("null", .null), ("true", .bool true), ("false", .bool false)]

/-- The text that a whole literal between quotes stands for: with the escapes of class sources in
Python, with those of JSON in the other targets. -/
def quotation? : Target → List Char → Option String
  | python, cs => do
      let (q, r) ← Source.Scanner.quote? (← Source.Scanner.quoteStart? cs) cs
      if q.bytes || q.formatted || !r.isEmpty then none
      else (Source.Literal.text? q).map String.ofList
  | _, '"' :: cs =>
      match Json.string cs with
      | .ok (s, []) => some s
      | _ => none
  | _, _ => none

/-- What a text denotes as a literal of the target. -/
def denoted? (t : Target) (text : String) : Option Scalar :=
  match Numeral.denoted? text.toList with
  | some number => some number
  | none =>
      match t.quotation? text.toList with
      | some s => some (.text s)
      | none => t.words.lookup text

theorem denoted?_numeral (t : Target) {text : String} {s : Scalar}
    (h : Numeral.denoted? text.toList = some s) : t.denoted? text = some s := by
  rw [denoted?, h]

/-- A text that starts with a quote mark is no numeral. -/
theorem numeral_mark {quote : Char} (hquote : Source.IsMark quote) (cs : List Char) :
    Numeral.denoted? (quote :: cs) = none := by
  rcases hquote with rfl | rfl <;>
    simp [Numeral.denoted?, Numeral.unsigned?, Json.wholeDigits, List.span_eq_takeWhile_dropWhile]

theorem denoted?_quotation (t : Target) {text s : String} {quote : Char} {cs : List Char}
    (hquote : Source.IsMark quote) (htext : text.toList = quote :: cs)
    (h : t.quotation? (quote :: cs) = some s) : t.denoted? text = some (.text s) := by
  rw [denoted?, htext, numeral_mark hquote, h]

theorem quotation?_json (s : String) :
    quotation? csharp ('"' :: s.toList.flatMap Json.escape ++ ['"']) = some s ∧
      quotation? typescript ('"' :: s.toList.flatMap Json.escape ++ ['"']) = some s := by
  have hstring := Json.string_escape s.toList
  simp [quotation?, hstring]

theorem quotation?_python (s : String) :
    quotation? python (Text.Quoted.encode s.toList) = some s := by
  have hstart := Source.quoteStart?_encode s.toList []
  have hquote := Source.quote?_encode s.toList (r := []) (by simp)
  rw [List.append_nil] at hstart hquote
  simp [quotation?, hstart, hquote, Source.text?_encode]

/-- A text between quotes denotes the text that it quotes. -/
theorem denoted?_text (t : Target) (s : String) :
    t.denoted? (t.dialect.literal (.text s)) = some (.text s) := by
  obtain ⟨hcsharp, htypescript⟩ := quotation?_json s
  cases t with
  | csharp => exact denoted?_quotation _ (.inr rfl) String.toList_ofList hcsharp
  | typescript => exact denoted?_quotation _ (.inr rfl) String.toList_ofList htypescript
  | python =>
    exact denoted?_quotation _ (Source.isMark_mark s.toList) String.toList_ofList
      (quotation?_python s)

theorem literal_int (t : Target) (n : Int) : t.dialect.literal (.int n) = intText n := by
  cases t <;> rfl

theorem literal_float (t : Target) (x : Double) : t.dialect.literal (.float x) = x.text := by
  cases t <;> rfl

/-- Every constant's literal denotes the constant, but floats that are not finite have none. -/
theorem denoted?_literal (t : Target) (s : Scalar) :
    t.denoted? (t.dialect.literal s) = if s.isFinite then some s else none := by
  cases s with
  | null => cases t <;> rfl
  | bool b => cases t <;> cases b <;> rfl
  | int n =>
    rw [literal_int]
    exact denoted?_numeral t (Numeral.denoted?_intText n)
  | text s => exact denoted?_text t s
  | float x =>
    rw [literal_float]
    cases x with
    | nan => cases t <;> decide +kernel
    | infinite negative => cases t <;> cases negative <;> decide +kernel
    | finite => exact denoted?_numeral t (Numeral.denoted?_float rfl)

end Target

end ViewModel
