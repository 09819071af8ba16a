import ViewModel.Value

/-!
Portable expression trees: what an accessor computes, free of any target's syntax.
-/

namespace ViewModel

/-- The constants of expressions and field defaults. -/
inductive Scalar
  | null
  | bool (b : Bool)
  | int (n : Int)
  | float (x : Double)
  | text (s : String)
  deriving DecidableEq, Inhabited

namespace Scalar

def toValue : Scalar → Value
  | null => .null
  | bool b => .bool b
  | int n => .int n
  | float x => .float x
  | text s => .text s

def ofValue? : Value → Option Scalar
  | .null => some null
  | .bool b => some (bool b)
  | .int n => some (int n)
  | .float x => some (float x)
  | .text s => some (text s)
  | _ => none

@[simp] theorem ofValue?_toValue (s : Scalar) : ofValue? s.toValue = some s := by
  cases s <;> rfl

end Scalar

inductive BinaryOp
  | and
  | or
  | equals
  | notEquals
  | greater
  | greaterEqual
  | less
  | lessEqual
  deriving DecidableEq, Inhabited

namespace BinaryOp

/-- The operator as manifests write it. -/
def symbol : BinaryOp → String
  | and => "AND"
  | or => "OR"
  | equals => "=="
  | notEquals => "!="
  | greater => ">"
  | greaterEqual => ">="
  | less => "<"
  | lessEqual => "<="

def all : List BinaryOp :=
  [and, or, equals, notEquals, greater, greaterEqual, less, lessEqual]

def ofSymbol? (s : String) : Option BinaryOp := all.find? (fun op => op.symbol == s)

theorem ofSymbol?_symbol (op : BinaryOp) : ofSymbol? op.symbol = some op := by
  cases op <;> decide

def isLogical : BinaryOp → Bool
  | and | or => true
  | _ => false

/-- The operators that need an order on their operands. -/
def isOrdering : BinaryOp → Bool
  | greater | greaterEqual | less | lessEqual => true
  | _ => false

end BinaryOp

/-- `member path nullSafe` reads a path of properties from the instance; the indexes in `nullSafe`
are those of the segments whose receiver may be null. A `hole` stands where a manifest leaves an
expression out. -/
inductive Expr
  | hole
  | binary (op : BinaryOp) (left right : Expr)
  | member (path : List String) (nullSafe : List Int)
  | literal (value : Scalar)
  | not (operand : Expr)
  | nullCheck (operand : Expr) (negated : Bool)
  | ternary (condition whenTrue whenFalse : Expr)
  deriving DecidableEq, Inhabited

namespace Expr

/-- Whether nothing is left out. -/
def isComplete : Expr → Bool
  | hole => false
  | binary _ l r => l.isComplete && r.isComplete
  | member .. | literal _ => true
  | not e | nullCheck e _ => e.isComplete
  | ternary c t f => c.isComplete && t.isComplete && f.isComplete

/-- Every path that is read, in the order of reading. -/
def paths : Expr → List (List String)
  | hole | literal _ => []
  | member path _ => [path]
  | binary _ l r => l.paths ++ r.paths
  | not e | nullCheck e _ => e.paths
  | ternary c t f => c.paths ++ t.paths ++ f.paths

/-- Keeps the first of equal paths. -/
def addPath (seen : List (List String)) (path : List String) : List (List String) :=
  if path ∈ seen then seen else seen ++ [path]

/-- Every path that is read, once, in first-seen order. -/
def referencedMembers (e : Expr) : List (List String) := e.paths.foldl addPath []

end Expr

end ViewModel
