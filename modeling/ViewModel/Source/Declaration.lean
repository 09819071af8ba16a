import ViewModel.Build.Error
import ViewModel.Source.Statement

/-!
Class declarations as written: fields and accessors in order, before any type is known.
-/

namespace ViewModel.Source

/-- `value` and `hint` are what a field is set to and what is written after its colon; `returns` is
the hint on the result of an accessor. -/
inductive Member
  | field (name : String) (line : Nat) (value hint : Option Term)
  | accessor (name : String) (line : Nat) (expression : Term) (returns : Option Term)
  deriving Inhabited

def Member.name : Member → String
  | field name .. => name
  | accessor name .. => name

structure Declaration where
  name : String
  base : Option String
  members : List Member
  source : String
  line : Nat
  deriving Inhabited

namespace Declaration

/-- Statements without the text that documents them. -/
def withoutDocumentation : List Statement → List Statement
  | .expression (.constant (.text _)) :: rest => rest
  | statements => statements

/-- The class that a declaration extends; the root of all classes counts as none. -/
def base? (className : String) (bases : List Term) : Except BuildError (Option String) :=
  match bases with
  | [] => .ok none
  | [t] =>
      match t.lastName? with
      | some name => .ok (if name = "object" then none else some name)
      | none => .error ⟨className, "", .baseNotName⟩
  | _ => .error ⟨className, "", .manyBases⟩

def isAccessorMark : Term → Bool
  | .name id => id == "property"
  | _ => false

def isSetterMark : Term → Bool
  | .access _ name => name == "setter" || name == "deleter"
  | _ => false

/-- The member that a statement declares, if it declares one. -/
def member? (className : String) : Statement → Except BuildError (Option Member)
  | .assign line [.name id] value => .ok (some (.field id line (some value) none))
  | .assign line _ _ => .error ⟨className, "", .notOneName line⟩
  | .annotated line (.name id) hint value => .ok (some (.field id line value (some hint)))
  | .annotated line _ _ _ => .error ⟨className, "", .notOneHintedName line⟩
  | .function line name decorators returns body =>
      if decorators.any isSetterMark then .error ⟨className, name, .setter⟩
      else if decorators.any isAccessorMark then
        match withoutDocumentation body with
        | [.returns (some value)] => .ok (some (.accessor name line value returns))
        | _ => .error ⟨className, name, .accessorBody⟩
      else .ok none
  | _ => .ok none

def readMembers (className : String) (body : List Statement) : Except BuildError (List Member) :=
  return (← (withoutDocumentation body).mapM (member? className)).filterMap id

/-- The class that a statement declares, if it declares one. -/
def ofStatement? (source : String) : Statement → Except BuildError (Option Declaration)
  | .declaration line name bases body => do
      let base ← base? name bases
      return some ⟨name, base, ← readMembers name body, source, line⟩
  | _ => .ok none

/-- The classes that a file declares, in order. -/
def ofSource (file text : String) : Except BuildError (List Declaration) :=
  if text.toList.contains '\x00' then .error ⟨"", "", .nullCharacter⟩
  else
    match readStatements text with
    | .error line => .error ⟨"", "", .unreadable file line⟩
    | .ok statements => return (← statements.mapM (ofStatement? file)).filterMap id

end Declaration

end ViewModel.Source
