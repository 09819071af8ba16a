import ViewModel.Model.Expr
import ViewModel.Model.Type
import ViewModel.Source.Term

/-!
Classes and their properties, and the set of all classes of one build. A class names its parent;
inherited properties are found by walking up.
-/

namespace ViewModel

/-- The expression of an accessor as written, and the hint on its result. -/
structure Accessor where
  expression : Source.Term
  returns : Option Source.Term
  deriving Inhabited

/-- A property that is `computed` has an expression and no default; until it is compiled its type
is unresolved and its expression a hole. -/
structure PropertyDecl where
  name : String
  type : TypeRef := .unresolved
  computed : Bool := false
  expression : Expr := .hole
  default : Scalar := .null
  accessor : Option Accessor := none
  deriving Inhabited

structure ClassDecl where
  name : String
  parent : Option String := none
  properties : List PropertyDecl := []
  source : Option String := none
  deriving Inhabited

namespace ClassDecl

/-- The first property of the class itself that has this name. -/
def property? (c : ClassDecl) (name : String) : Option PropertyDecl :=
  c.properties.find? (fun p => p.name == name)

def fields (c : ClassDecl) : List PropertyDecl := c.properties.filter (fun p => !p.computed)

def computedProperties (c : ClassDecl) : List PropertyDecl := c.properties.filter (·.computed)

end ClassDecl

structure Manifest where
  classes : List ClassDecl
  deriving Inhabited

namespace Manifest

def names (m : Manifest) : List String := m.classes.map ClassDecl.name

def class? (m : Manifest) (name : String) : Option ClassDecl :=
  m.classes.find? (fun c => c.name == name)

theorem name_of_class? {m : Manifest} {name : String} {c : ClassDecl}
    (h : m.class? name = some c) : c.name = name := by
  simpa using List.find?_some h

theorem mem_of_class? {m : Manifest} {name : String} {c : ClassDecl}
    (h : m.class? name = some c) : c ∈ m.classes :=
  List.mem_of_find?_eq_some h

/-- Adds a class at the end, unless there is one of its name. -/
def add? (m : Manifest) (c : ClassDecl) : Option Manifest :=
  if (m.class? c.name).isSome then none else some ⟨m.classes ++ [c]⟩

def parent? (m : Manifest) (c : ClassDecl) : Option ClassDecl := c.parent.bind m.class?

/-- A class and at most `n` of its ancestors, nearest first. -/
def ancestry (m : Manifest) : Nat → ClassDecl → List ClassDecl
  | 0, c => [c]
  | n + 1, c =>
      match m.parent? c with
      | some p => c :: m.ancestry n p
      | none => [c]

/-- A class and all its ancestors, nearest first. There are no more of them than classes, unless
parents go round in a circle. -/
def lineage (m : Manifest) (c : ClassDecl) : List ClassDecl := m.ancestry m.classes.length c

/-- The nearest class of the lineage that declares a property. -/
def owner? (m : Manifest) (c : ClassDecl) (name : String) : Option ClassDecl :=
  (m.lineage c).find? (fun d => (d.property? name).isSome)

/-- A property of the class or of its nearest ancestor that declares it. -/
def findProperty? (m : Manifest) (c : ClassDecl) (name : String) : Option PropertyDecl :=
  (m.lineage c).findSome? (fun d => d.property? name)

/-- Every property of the class, inherited ones first. -/
def allProperties (m : Manifest) (c : ClassDecl) : List PropertyDecl :=
  (m.lineage c).reverse.flatMap ClassDecl.properties

/-- How many classes, fields and computed properties there are. -/
structure Summary where
  classes : Nat
  fields : Nat
  computed : Nat
  deriving DecidableEq

def summary (m : Manifest) : Summary :=
  ⟨m.classes.length, (m.classes.flatMap ClassDecl.fields).length,
    (m.classes.flatMap ClassDecl.computedProperties).length⟩

end Manifest

end ViewModel
