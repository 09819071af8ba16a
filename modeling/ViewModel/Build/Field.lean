import ViewModel.Build.Hint
import ViewModel.Model.Expr

/-!
Types of fields. The value decides if it can, as a literal, an example or a new object; a field
without one takes its type from the hint.
-/

namespace ViewModel

namespace Field

/-- The type and value of a literal, perhaps with signs. -/
def literal? : Source.Term → Option (TypeRef × Scalar)
  | .constant (.bool b) => some (.boolean, .bool b)
  | .constant (.text s) => some (.string, .text s)
  | .constant (.int n) => some (.integer, .int n)
  | .constant (.float x) => some (.float, .float x)
  | .unary .minus t =>
      match literal? t with
      | some (_, .int n) => some (.integer, .int (-n))
      | some (_, .float x) => some (.float, .float x.neg)
      | _ => none
  | .unary .plus t =>
      match literal? t with
      | some (_, .int n) => some (.integer, .int n)
      | some (_, .float x) => some (.float, .float x)
      | _ => none
  | _ => none

/-- The type of a value and the literal it is, if it is one; none for a bare null. -/
def ofValue? (classes : List String) (value : Source.Term) :
    Except BuildError.Cause (Option (TypeRef × Scalar)) :=
  match value with
  | .constant .none => .ok none
  | .list [example'] => do
      match ← ofValue? classes example' with
      | some (t, _) => return some (.sequence t, .null)
      | none => .error .nullExample
  | .list _ => .error .exampleCount
  | .call function =>
      match function.lastName? with
      | some name =>
          if classes.contains name then .ok (some (.reference name, .null))
          else .error (.unknownConstructor name)
      | none => .error (.uninferable "Call")
  | t =>
      match literal? t with
      | some l => .ok (some l)
      | none => .error (.uninferable t.kindName)

/-- Whether a value is a list that does not show what its elements are. -/
def lacksExample : Source.Term → Bool
  | .list [_] => false
  | .list _ => true
  | _ => false

/-- The type that the hint gives; a null value makes it nullable. -/
def ofHint (classes : List String) (value hint : Option Source.Term) :
    Except BuildError.Cause (TypeRef × Scalar) := do
  match hint with
  | none => .error .noHint
  | some hint =>
      let t ← Hint.type classes hint
      return (if value.isSome then t.orNull else t, .null)

/-- The type that a value shows; a null value leaves it to the hint. -/
def ofValue (classes : List String) (value : Source.Term) (hint : Option Source.Term) :
    Except BuildError.Cause (TypeRef × Scalar) := do
  match ← ofValue? classes value with
  | some inferred => return inferred
  | none => ofHint classes (some value) hint

/-- The type and the default of a field. -/
def infer (classes : List String) (value hint : Option Source.Term) :
    Except BuildError.Cause (TypeRef × Scalar) := do
  match value, hint with
  | some value, some hint =>
      if lacksExample value then
        match ← Hint.type classes hint with
        | .sequence t => return (.sequence t, .null)
        | t => .error (.notSequence t)
      else ofValue classes value (some hint)
  | some value, none => ofValue classes value none
  | none, hint => ofHint classes none hint

end Field

end ViewModel
