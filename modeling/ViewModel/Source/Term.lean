import ViewModel.Number.Double

/-!
Expressions of the authoring language. Forms that no field, hint or accessor can use keep only
their name.
-/

namespace ViewModel.Source

inductive Constant
  | none
  | bool (b : Bool)
  | int (n : Int)
  | float (x : Double)
  | imaginary
  | text (s : String)
  | bytes
  | ellipsis
  deriving DecidableEq, Inhabited

/-- The word for the kind of a constant in messages. -/
def Constant.kindName : Constant → String
  | none => "NoneType"
  | bool _ => "bool"
  | int _ => "int"
  | float _ => "float"
  | imaginary => "complex"
  | text _ => "str"
  | bytes => "bytes"
  | ellipsis => "ellipsis"

inductive PrefixOp
  | not
  | minus
  | plus
  | invert
  deriving DecidableEq, Inhabited

def PrefixOp.name : PrefixOp → String
  | not => "Not"
  | minus => "USub"
  | plus => "UAdd"
  | invert => "Invert"

inductive CompareOp
  | eq
  | notEq
  | lt
  | ltE
  | gt
  | gtE
  | is
  | isNot
  | member
  | notMember
  deriving DecidableEq, Inhabited

def CompareOp.name : CompareOp → String
  | eq => "Eq"
  | notEq => "NotEq"
  | lt => "Lt"
  | ltE => "LtE"
  | gt => "Gt"
  | gtE => "GtE"
  | is => "Is"
  | isNot => "IsNot"
  | member => "In"
  | notMember => "NotIn"

/-- Forms of which only the name matters. -/
inductive Form
  | lambda
  | joinedText
  | dict
  | set
  | listComprehension
  | setComprehension
  | dictComprehension
  | generator
  | await
  | yieldValue
  | yieldFrom
  | assignment
  | slice
  deriving DecidableEq, Inhabited

def Form.name : Form → String
  | lambda => "Lambda"
  | joinedText => "JoinedStr"
  | dict => "Dict"
  | set => "Set"
  | listComprehension => "ListComp"
  | setComprehension => "SetComp"
  | dictComprehension => "DictComp"
  | generator => "GeneratorExp"
  | await => "Await"
  | yieldValue => "Yield"
  | yieldFrom => "YieldFrom"
  | assignment => "NamedExpr"
  | slice => "Slice"

/-- A comparison holds its first two operands and the further links of the chain; `arithmetic true`
is the bitwise or, which also joins the types of a hint. -/
inductive Term
  | constant (c : Constant)
  | name (id : String)
  | access (receiver : Term) (name : String)
  | logical (conjunction : Bool) (left right : Term)
  | unary (op : PrefixOp) (operand : Term)
  | compare (first : Term) (op : CompareOp) (second : Term) (more : List (CompareOp × Term))
  | conditional (test whenTrue whenFalse : Term)
  | call (function : Term)
  | subscript (value index : Term)
  | arithmetic (union : Bool) (left right : Term)
  | list (items : List Term)
  | tuple (items : List Term)
  | starred (value : Term)
  | other (form : Form)
  deriving Inhabited

namespace Term

/-- The name of a form in messages. -/
def kindName : Term → String
  | constant _ => "Constant"
  | name _ => "Name"
  | access .. => "Attribute"
  | logical .. => "BoolOp"
  | unary .. => "UnaryOp"
  | compare .. => "Compare"
  | conditional .. => "IfExp"
  | call _ => "Call"
  | subscript .. => "Subscript"
  | arithmetic .. => "BinOp"
  | list _ => "List"
  | tuple _ => "Tuple"
  | starred _ => "Starred"
  | other form => form.name

def isNone : Term → Bool
  | constant .none => true
  | _ => false

/-- The dotted name that a term writes, last segment first. -/
def lastName? : Term → Option String
  | name id => some id
  | access _ id => some id
  | _ => none

mutual

/-- Whether values can be assigned to the term. -/
def isTarget : Term → Bool
  | name _ | access .. | subscript .. => true
  | list items | tuple items => areTargets items
  | starred t => !t.isStarred && t.isTarget
  | _ => false

def areTargets : List Term → Bool
  | [] => true
  | t :: rest => t.isTarget && areTargets rest

def isStarred : Term → Bool
  | starred _ => true
  | _ => false

end

mutual

/-- Whether the term can be deleted. -/
def isDeletable : Term → Bool
  | name _ | access .. | subscript .. => true
  | list items | tuple items => areDeletable items
  | _ => false

def areDeletable : List Term → Bool
  | [] => true
  | t :: rest => t.isDeletable && areDeletable rest

end

/-- A name, attribute or subscript. -/
def isSingleTarget : Term → Bool
  | name _ | access .. | subscript .. => true
  | _ => false

end Term

end ViewModel.Source
