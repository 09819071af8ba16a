/-!
Types of properties.
-/

namespace ViewModel

/-- The primitive kinds every target language has. -/
inductive Primitive
  | string
  | boolean
  | integer
  | float
  deriving DecidableEq, Inhabited

namespace Primitive

def name : Primitive → String
  | string => "string"
  | boolean => "boolean"
  | integer => "integer"
  | float => "float"

def all : List Primitive := [string, boolean, integer, float]

def ofName? (s : String) : Option Primitive := all.find? (fun p => p.name == s)

theorem ofName?_name (p : Primitive) : ofName? p.name = some p := by
  cases p <;> decide

end Primitive

/-- A class is referred to by name, so classes may refer to each other. `unresolved` is the type
of a property, or the part of a type, that a manifest leaves out. -/
inductive TypeRef
  | unresolved
  | primitive (kind : Primitive)
  | reference (className : String)
  | sequence (element : TypeRef)
  | nullable (inner : TypeRef)
  deriving DecidableEq, Inhabited

namespace TypeRef

abbrev string : TypeRef := primitive .string
abbrev boolean : TypeRef := primitive .boolean
abbrev integer : TypeRef := primitive .integer
abbrev float : TypeRef := primitive .float

/-- The type with null added; a nullable type stays as it is. -/
def orNull : TypeRef → TypeRef
  | nullable t => nullable t
  | t => nullable t

/-- The type without its outermost null. -/
def stripNull : TypeRef → TypeRef
  | nullable t => t
  | t => t

def isNullable : TypeRef → Bool
  | nullable _ => true
  | _ => false

def isNumeric (t : TypeRef) : Bool := t == integer || t == float

def isPrimitive : TypeRef → Bool
  | primitive _ => true
  | _ => false

/-- The name of a type in messages. -/
def describe : TypeRef → String
  | unresolved => "<unresolved>"
  | primitive k => k.name
  | reference c => c
  | sequence t => "sequence-of(" ++ t.describe ++ ")"
  | nullable t => "nullable(" ++ t.describe ++ ")"

@[simp] theorem orNull_orNull (t : TypeRef) : t.orNull.orNull = t.orNull := by
  cases t <;> rfl

@[simp] theorem isNullable_orNull (t : TypeRef) : t.orNull.isNullable = true := by
  cases t <;> rfl

@[simp] theorem isNullable_iff (t : TypeRef) : t.isNullable = true ↔ ∃ s, t = nullable s := by
  cases t <;> simp [isNullable]

/-- The classes that a type mentions, from left to right. -/
def classes : TypeRef → List String
  | reference c => [c]
  | sequence t => t.classes
  | nullable t => t.classes
  | _ => []

/-- Whether no part of the type is left out. -/
def isResolved : TypeRef → Bool
  | unresolved => false
  | sequence t => t.isResolved
  | nullable t => t.isResolved
  | _ => true

end TypeRef

end ViewModel
