import ViewModel.Build.Error
import ViewModel.Model.Expr

/-!
Rules on the types of operands: which operands may be conditions, which may be compared, and what
type two branches have together.
-/

namespace ViewModel

/-- An expression and its type. -/
abbrev Typed := Expr × Typing

namespace Typing

def stripNull : Typing → Typing
  | null => null
  | known t => known t.stripNull

def orNull : Typing → Typing
  | null => null
  | known t => known t.orNull

def isNullable : Typing → Bool
  | null => false
  | known t => t.isNullable

def isNumeric : Typing → Bool
  | null => false
  | known t => t.isNumeric

def isPrimitive : Typing → Bool
  | null => false
  | known t => t.isPrimitive

end Typing

namespace Typed

/-- An operand as a condition: a boolean as it is, any other nullable value by not being null. -/
def condition : Typed → Except BuildError.Cause Expr
  | (e, .known (.nullable t)) =>
      if t = .boolean then .error (.truthiness (.known (.nullable t)))
      else .ok (.nullCheck e true)
  | (e, t) => if t = .known .boolean then .ok e else .error (.truthiness t)

/-- Equality takes primitives of one type, or numbers. -/
def checkEquality (left right : Typing) : Except BuildError.Cause Unit :=
  let a := left.stripNull
  let b := right.stripNull
  if !(a.isPrimitive && b.isPrimitive) then .error (.notPrimitive left right)
  else if a ≠ b ∧ !(a.isNumeric && b.isNumeric) then .error (.neverEqual left right)
  else .ok ()

/-- Order takes numbers. -/
def checkOrdered (t : Typing) : Except BuildError.Cause Unit :=
  if t.stripNull.isNumeric then .ok () else .error (.unordered t)

/-- The test that no nullable operand is null, if there is one. -/
def guard? (left right : Typed) : Option Expr :=
  match left.2.isNullable, right.2.isNullable with
  | true, true => some (.binary .and (.nullCheck left.1 true) (.nullCheck right.1 true))
  | true, false => some (.nullCheck left.1 true)
  | false, true => some (.nullCheck right.1 true)
  | false, false => none

/-- A comparison; by order it is false where an operand is null. -/
def compare (op : BinaryOp) (left right : Typed) : Except BuildError.Cause Expr := do
  if op.isOrdering then
    checkOrdered left.2
    checkOrdered right.2
    match guard? left right with
    | some g => return .binary .and g (.binary op left.1 right.1)
    | none => return .binary op left.1 right.1
  else
    checkEquality left.2 right.2
    return .binary op left.1 right.1

/-- The type of two branches: they agree up to null. -/
def agree (a b : Typing) : Except BuildError.Cause Typing :=
  if a = b then .ok a
  else
    match a, b with
    | .null, b => .ok b.orNull
    | a, .null => .ok a.orNull
    | a, b => if a.orNull = b.orNull then .ok a.orNull else .error (.branches a b)

end Typed

end ViewModel
