import ViewModel.Model.Expr
import ViewModel.Value.Order

/-!
The meaning of expression trees on an instance: reading through null gives null, truth values
never equal numbers, and a comparison by order with null is false.
-/

namespace ViewModel

inductive EvalError
  /-- Two values that have no order were compared by order. -/
  | unordered
  /-- The part of the expression that was reached is left out. -/
  | hole
  deriving DecidableEq

namespace Value

/-- The named parts of a number. -/
def numberPart (v : Value) (name : String) : Value :=
  match v with
  | bool b => part (if b then 1 else 0)
  | int n => part n
  | float x =>
      if name = "real" then float x
      else if name = "imag" then float (.zero false)
      else null
  | _ => null
where
  part (n : Int) : Value :=
    if name = "real" ∨ name = "numerator" then int n
    else if name = "imag" then int 0
    else if name = "denominator" then int 1
    else null

/-- Reads one property; a missing one is null. -/
def member (v : Value) (name : String) : Value :=
  match v with
  | mapping es | record _ _ es => (Entries.find? es name).getD null
  | v => v.numberPart name

/-- Reads a path of properties. -/
def memberPath (v : Value) (path : List String) : Value := path.foldl member v

@[simp] theorem member_null (name : String) : null.member name = null := rfl

@[simp] theorem memberPath_nil (v : Value) : v.memberPath [] = v := rfl

@[simp] theorem memberPath_cons (v : Value) (name : String) (path : List String) :
    v.memberPath (name :: path) = (v.member name).memberPath path := rfl

@[simp] theorem memberPath_null (path : List String) : null.memberPath path = null := by
  induction path with
  | nil => rfl
  | cons name path ih => simp [ih]

def isBool : Value → Bool
  | bool _ => true
  | _ => false

/-- Equality that keeps truth values apart from numbers. -/
def strictEqual (v w : Value) : Bool := v.isBool == w.isBool && v.equal w

end Value

namespace BinaryOp

def relation : BinaryOp → Value.Relation
  | greater => .greater
  | greaterEqual => .greaterEqual
  | less => .less
  | _ => .lessEqual

/-- The result of a comparison. -/
def compare (op : BinaryOp) (v w : Value) : Except EvalError Bool :=
  match op with
  | equals => .ok (v.strictEqual w)
  | notEquals => .ok !(v.strictEqual w)
  | op =>
      if v.isNull || w.isNull then .ok false
      else
        match Value.compare? op.relation v w with
        | some b => .ok b
        | none => .error .unordered

end BinaryOp

namespace Expr

/-- The value of an expression on an instance. -/
def evaluate (target : Value) : Expr → Except EvalError Value
  | hole => .error .hole
  | literal s => .ok s.toValue
  | member path _ => .ok (target.memberPath path)
  | nullCheck e negated => do
      let v ← e.evaluate target
      return .bool (v.isNull != negated)
  | not e => do
      let v ← e.evaluate target
      return .bool !v.truth
  | binary .and l r => do
      let v ← l.evaluate target
      if v.truth then
        let w ← r.evaluate target
        return .bool w.truth
      else return .bool false
  | binary .or l r => do
      let v ← l.evaluate target
      if v.truth then return .bool true
      else
        let w ← r.evaluate target
        return .bool w.truth
  | binary op l r => do
      let v ← l.evaluate target
      let w ← r.evaluate target
      return .bool (← op.compare v w)
  | ternary c t f => do
      let v ← c.evaluate target
      if v.truth then t.evaluate target else f.evaluate target

end Expr

end ViewModel
