import ViewModel.Accessor.Typing
import ViewModel.Build.Hint
import ViewModel.Model.Manifest

/-!
From the expression of an accessor to a portable expression tree and its type. Properties that it
reads are compiled first; what is compiled once is kept.
-/

namespace ViewModel

namespace Accessor

open Source (Term CompareOp Constant)

structure Compiled where
  expression : Expr
  type : TypeRef
  deriving Inhabited

/-- A computed property by class and name. -/
abbrev Key := String × String

/-- What is compiled so far. Entries are only added. -/
abbrev Progress := List (Key × Compiled)

/-- Compiling keeps what it compiled also when it fails. -/
abbrev Compile (α : Type) := ExceptT BuildError (StateM Progress) α

/-- `whole` has every class and its ancestors; only the classes of `visible` can be referred to. -/
structure Scope where
  whole : Manifest
  visible : Manifest

/-- The accessor that is being compiled. `typeOf` gives the type of a property of a class. -/
structure Site where
  scope : Scope
  owner : ClassDecl
  property : String
  typeOf : ClassDecl → PropertyDecl → Compile TypeRef

namespace Site

variable {α : Type}

def fail (site : Site) (cause : BuildError.Cause) : Compile α :=
  throw ⟨site.owner.name, site.property, cause⟩

def lift (site : Site) : Except BuildError.Cause α → Compile α
  | .ok a => return a
  | .error cause => site.fail cause

/-- The type of a property that the receiver or an ancestor declares; `path` leads to it. -/
def memberType (site : Site) (receiver : ClassDecl) (path : List String) (name : String) :
    Compile TypeRef :=
  match site.scope.whole.owner? receiver name with
  | none => site.fail (.unknownMember path receiver.name)
  | some owner =>
      match owner.property? name with
      | none => site.fail (.unknownMember path receiver.name)
      | some p => site.typeOf owner p

/-- Follows more segments from a value of type `leaf` that `path` leads to: the type at the end and
the segments whose receiver may be null. -/
def follow (site : Site) (path : List String) (leaf : TypeRef) (nullSafe : List Int) :
    List String → Compile (TypeRef × List Int)
  | [] => return (if nullSafe.isEmpty then leaf else leaf.orNull, nullSafe)
  | name :: rest =>
      match leaf.stripNull with
      | .reference c =>
          match site.scope.visible.class? c with
          | none => site.fail (.noClass c)
          | some receiver => do
              let index : Int := path.length
              let nullSafe := if leaf.isNullable then nullSafe ++ [index] else nullSafe
              let path := path ++ [name]
              site.follow path (← site.memberType receiver path name) nullSafe rest
      | _ => site.fail (.noMembers path leaf)

/-- Reads a path of properties from the instance. -/
def member (site : Site) (path : List String) : Compile Typed := do
  match path with
  | [] => site.fail .notFromSelf
  | name :: rest =>
      let leaf ← site.memberType site.owner [name] name
      let (t, nullSafe) ← site.follow [name] leaf [] rest
      return (.member path nullSafe, .known t)

def constant (site : Site) : Constant → Compile Typed
  | .none => return (.literal .null, .null)
  | .bool b => return (.literal (.bool b), .known .boolean)
  | .text s => return (.literal (.text s), .known .string)
  | .int n => return (.literal (.int n), .known .integer)
  | .float x => return (.literal (.float x), .known .float)
  | c => site.fail (.constantKind c.kindName)

/-- A number with a minus before it. -/
def negative (site : Site) (c : Constant) : Compile Typed := do
  match ← site.constant c with
  | (.literal (.int n), t) => return (.literal (.int (-n)), t)
  | (.literal (.float x), t) => return (.literal (.float x.neg), t)
  | _ => site.fail (.prefixOperator "USub")

/-- An operand of a comparison, which has yet to be compiled. -/
structure Operand where
  isNone : Bool
  compiled : Compile Typed

def binaryOp? : CompareOp → Option BinaryOp
  | .eq => some .equals
  | .notEq => some .notEquals
  | .lt => some .less
  | .ltE => some .lessEqual
  | .gt => some .greater
  | .gtE => some .greaterEqual
  | _ => none

/-- Whether the operator tests for null where one operand is null. -/
def testsNull (op : CompareOp) : Bool := op ∈ [.is, .isNot, .eq, .notEq]

def isIdentity (op : CompareOp) : Bool := op ∈ [.is, .isNot]

/-- One comparison of a chain. -/
def comparison (site : Site) (left : Operand) (op : CompareOp) (right : Operand) :
    Compile Expr := do
  if testsNull op && (left.isNone || right.isNone) then
    if left.isNone && right.isNone then site.fail .nullWithNull
    else
      let (e, _) ← if left.isNone then right.compiled else left.compiled
      return .nullCheck e (op == .isNot || op == .notEq)
  else if isIdentity op then site.fail .identity
  else
    match binaryOp? op with
    | none => site.fail (.comparison op.name)
    | some operator =>
        let l ← left.compiled
        let r ← right.compiled
        site.lift (Typed.compare operator l r)

/-- The further links of a chain of comparisons: all of them hold. -/
def chain (site : Site) (sofar : Expr) (left : Operand) :
    List (CompareOp × Operand) → Compile Typed
  | [] => return (sofar, .known .boolean)
  | (op, right) :: rest => do
      let e ← site.comparison left op right
      site.chain (.binary .and sofar e) right rest

/-- The path that a chain of attributes of `self` writes. -/
def path? : Term → Option (List String)
  | .name "self" => some []
  | .access receiver name => (path? receiver).map (· ++ [name])
  | _ => none

mutual

/-- The expression tree of a term, and its type. -/
def emit (site : Site) : Term → Compile Typed
  | .constant c => site.constant c
  | .access receiver name =>
      match path? receiver with
      | some path => site.member (path ++ [name])
      | none => site.fail .notFromSelf
  | .logical conjunction left right => do
      let l ← site.lift (Typed.condition (← site.emit left))
      let r ← site.lift (Typed.condition (← site.emit right))
      return (.binary (if conjunction then .and else .or) l r, .known .boolean)
  | .unary .not operand => do
      return (.not (← site.lift (Typed.condition (← site.emit operand))), .known .boolean)
  | .unary .minus (.constant c) => site.negative c
  | .unary op _ => site.fail (.prefixOperator op.name)
  | .compare first op second more => do
      let right : Operand := ⟨second.isNone, site.emit second⟩
      let e ← site.comparison ⟨first.isNone, site.emit first⟩ op right
      site.chain e right (site.operands more)
  | .conditional test whenTrue whenFalse => do
      let c ← site.lift (Typed.condition (← site.emit test))
      let (t, tType) ← site.emit whenTrue
      let (f, fType) ← site.emit whenFalse
      return (.ternary c t f, ← site.lift (Typed.agree tType fType))
  | .name id => site.fail (if id = "self" then .bareSelf else .freeName id)
  | .call _ => site.fail .functionCall
  | t => site.fail (.unknownForm t.kindName)

def operands (site : Site) : List (CompareOp × Term) → List (CompareOp × Operand)
  | [] => []
  | (op, t) :: rest => (op, ⟨t.isNone, site.emit t⟩) :: site.operands rest

end

/-- The declared type, if the expression has it or has it without null. -/
def declaredType (site : Site) (inferred : TypeRef) : Option Term → Compile TypeRef
  | none => return inferred
  | some hint => do
      let declared ← site.lift (Hint.type site.scope.visible.names hint)
      if declared = inferred ∨ declared = inferred.orNull then return declared
      else site.fail (.otherType declared inferred)

/-- The expression and the type of an accessor. -/
def compile (site : Site) (a : Accessor) : Compile Compiled := do
  match ← site.emit a.expression with
  | (_, .null) => site.fail .alwaysNull
  | (e, .known t) => return ⟨e, ← site.declaredType t a.returns⟩

end Site

/-- The type that a property has so far. -/
def Progress.typeOf (done : Progress) (c : ClassDecl) (p : PropertyDecl) : TypeRef :=
  match p.type with
  | .unresolved =>
      if p.computed then
        match done.lookup (c.name, p.name) with
        | some r => r.type
        | none => .unresolved
      else .unresolved
  | t => t

/-- Whether there is nothing to compile for a property. -/
def isDone (done : Progress) (c : ClassDecl) (p : PropertyDecl) : Bool :=
  !p.computed || p.expression ≠ .hole || (done.lookup (c.name, p.name)).isSome

/-- The type of a property, compiled by `ensure` where it has to be. -/
def typeAfter (ensure : ClassDecl → PropertyDecl → Compile Unit) (c : ClassDecl)
    (p : PropertyDecl) : Compile TypeRef := do
  if p.computed && p.type = .unresolved then ensure c p
  return (← get).typeOf c p

/-- Compiles a property unless it is compiled; `active` are the properties that wait for it. Each
step adds one, so the number of properties is enough fuel. -/
def ensureWith (scope : Scope) : Nat → List Key → ClassDecl → PropertyDecl → Compile Unit
  | 0, _, c, p => throw ⟨c.name, p.name, .cycle⟩
  | fuel + 1, active, c, p => do
      if isDone (← get) c p then return ()
      let key := (c.name, p.name)
      if active.contains key then throw ⟨c.name, p.name, .cycle⟩
      match p.accessor with
      | none => throw ⟨c.name, p.name, .noExpression⟩
      | some a =>
          let typeOf := typeAfter (ensureWith scope fuel (key :: active))
          let r ← Site.compile ⟨scope, c, p.name, typeOf⟩ a
          modify (· ++ [(key, r)])

/-- Compiles one property and those it reads. -/
def ensure (scope : Scope) (c : ClassDecl) (p : PropertyDecl) : Compile Unit :=
  ensureWith scope (scope.whole.summary.computed + 2) [] c p

/-- Compiles every property of a class, in order. -/
def compileClass (scope : Scope) (c : ClassDecl) : Compile Unit :=
  c.computedProperties.forM (ensure scope c)

/-- Compiles every property of every visible class, in order. -/
def compileAll (scope : Scope) : Compile Unit := scope.visible.classes.forM (compileClass scope)

namespace Progress

/-- A property with what is compiled for it. -/
def settle (done : Progress) (c : ClassDecl) (p : PropertyDecl) : PropertyDecl :=
  if isDone [] c p then p
  else
    match done.lookup (c.name, p.name) with
    | some r => { p with type := r.type, expression := r.expression }
    | none => p

def settleClass (done : Progress) (c : ClassDecl) : ClassDecl :=
  { c with properties := c.properties.map (done.settle c) }

/-- The classes with what is compiled. -/
def apply (done : Progress) (m : Manifest) : Manifest := ⟨m.classes.map done.settleClass⟩

end Progress

end Accessor

namespace Manifest

/-- The manifest with every accessor compiled. -/
def compile (m : Manifest) : Except BuildError Manifest :=
  let (r, done) := ((Accessor.compileAll ⟨m, m⟩).run).run []
  match r with
  | .ok () => .ok (done.apply m)
  | .error e => .error e

end Manifest

end ViewModel
