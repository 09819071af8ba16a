import ViewModel.Proofs.Target.Generated

/-!
A Python class file, line by line: what it imports from the package, and its body statement by
statement with the names that a statement evaluates. A property that is bound earlier in the body
hides a name of the module.
-/

namespace ViewModel

/-- `name` is imported from a module of the same package. -/
structure Import where
  module : String
  name : String
  deriving DecidableEq

def Import.line (i : Import) : String := "from ." ++ i.module ++ " import " ++ i.name

/-- The import that brings in a class. -/
def Import.ofClass (name : String) : Import := ⟨ClassFile.snake name, name⟩

def ClassDecl.imports (c : ClassDecl) : List Import := c.references.map Import.ofClass

/-- What a field starts with: a constant, or a value that a factory makes for each object. -/
inductive FieldValue
  | constant (text : String)
  | made (factory : String)
  deriving DecidableEq

def FieldValue.text : FieldValue → String
  | constant s => s
  | made factory => "field(default_factory=" ++ factory ++ ")"

inductive BodyStatement
  | field (name hint : String) (value : FieldValue)
  | accessor (name hint result : String)
  deriving DecidableEq

namespace BodyStatement

def name : BodyStatement → String
  | field name .. => name
  | accessor name .. => name

/-- The names of the module that the body evaluates here. Hints and what an accessor returns are
not evaluated while the body runs. -/
def evaluated : BodyStatement → List String
  | field _ _ (.constant _) => []
  | field _ _ (.made factory) => ["field", factory]
  | accessor .. => ["property"]

/-- The lines of a body, with empty ones around accessors. -/
def linesOf (isFirst afterAccessor : Bool) : List BodyStatement → List String
  | [] => []
  | accessor name hint result :: rest =>
      (if isFirst then [] else [""])
        ++ [ClassFile.indent 1 "@property",
          ClassFile.indent 1 ("def " ++ name ++ "(self) -> " ++ hint ++ ":"),
          ClassFile.indent 2 ("return " ++ result)]
        ++ linesOf false true rest
  | field name hint value :: rest =>
      (if afterAccessor then [""] else [])
        ++ [ClassFile.indent 1 (name ++ ": " ++ hint ++ " = " ++ value.text)]
        ++ linesOf false false rest

/-- Every name that the body evaluates is still the one of the module, where the body has bound
some names before. -/
def Unhidden : List String → List BodyStatement → Prop
  | _, [] => True
  | bound, s :: rest => (∀ n ∈ s.evaluated, n ∉ bound) ∧ Unhidden (bound ++ [s.name]) rest

theorem unhidden_iff {bound : List String} {body : List BodyStatement} :
    Unhidden bound body ↔ (∀ s ∈ body, ∀ n ∈ s.evaluated, n ∉ bound) ∧
      body.Pairwise fun s s' => s.name ∉ s'.evaluated := by
  induction body generalizing bound with
  | nil => simp [Unhidden]
  | cons s rest ih =>
    rw [Unhidden, ih, List.forall_mem_cons, List.pairwise_cons]
    constructor
    · rintro ⟨hs, hrest, hpairs⟩
      refine ⟨⟨hs, fun s' hs' n hn hbound => ?_⟩, fun s' hs' hn => ?_, hpairs⟩
      · exact hrest s' hs' n hn (List.mem_append_left _ hbound)
      · exact hrest s' hs' s.name hn (List.mem_append_right _ (List.mem_singleton_self _))
    · rintro ⟨⟨hs, hrest⟩, hname, hpairs⟩
      refine ⟨hs, fun s' hs' n hn hbound => ?_, hpairs⟩
      rcases List.mem_append.mp hbound with hbound | hbound
      · exact hrest s' hs' n hn hbound
      · exact hname s' hs' (List.mem_singleton.mp hbound ▸ hn)

end BodyStatement

namespace PropertyDecl

variable {p : PropertyDecl} {s : BodyStatement}

def fieldValue (p : PropertyDecl) : FieldValue :=
  match p.type with
  | .nullable _ => .constant "None"
  | .primitive k =>
      .constant (ClassFile.primitiveDefault Scalar.pythonLiteral ClassFile.pythonZero k p.default)
  | .reference c => .made c
  | _ => .made "list"

theorem fieldValue_text (p : PropertyDecl) : p.fieldValue.text = ClassFile.pythonDefault p := by
  rw [fieldValue, ClassFile.pythonDefault]
  cases p.type <;> rfl

/-- The statement that declares a property. -/
def statement (p : PropertyDecl) : Except PrintError BodyStatement := do
  let hint ← p.type.python
  if p.computed then return .accessor p.name hint (← Dialect.python.print p.expression)
  else return .field p.name hint p.fieldValue

/-- The names that declaring a property evaluates. -/
def evaluated (p : PropertyDecl) : List String :=
  if p.computed then ["property"]
  else
    match p.type with
    | .nullable _ | .primitive _ => []
    | .reference c => ["field", c]
    | _ => ["field", "list"]

theorem statement_evaluated (h : p.statement = .ok s) :
    s.name = p.name ∧ s.evaluated = p.evaluated := by
  obtain ⟨hint, -, h⟩ := Success.bind_eq_ok.mp h
  rw [evaluated]
  split at h
  · next hcomputed =>
    obtain ⟨result, -, h⟩ := Success.bind_eq_ok.mp h
    obtain rfl := Success.pure_eq_ok.mp h
    rw [if_pos hcomputed]
    exact ⟨rfl, rfl⟩
  · next hfield =>
    obtain rfl := Success.pure_eq_ok.mp h
    rw [if_neg hfield]
    refine ⟨rfl, ?_⟩
    cases htype : p.type <;> simp [fieldValue, htype, BodyStatement.evaluated]

end PropertyDecl

namespace ClassFile

/-- The properties of a class are written one statement after another. -/
theorem pythonProperties_eq (isFirst afterAccessor : Bool) (ps : List PropertyDecl) :
    pythonProperties isFirst afterAccessor ps =
      BodyStatement.linesOf isFirst afterAccessor <$> ps.mapM PropertyDecl.statement := by
  induction ps generalizing isFirst afterAccessor with
  | nil => rfl
  | cons p rest ih =>
    rw [pythonProperties, List.mapM_cons, PropertyDecl.statement]
    cases p.type.python with
    | error e => rfl
    | ok hint =>
      cases hcomputed : p.computed with
      | true =>
        cases hprint : Dialect.python.print p.expression with
        | error e => simp [bind, Except.bind, Functor.map, Except.map]
        | ok result =>
          cases hrest : rest.mapM PropertyDecl.statement <;>
            simp [hrest, ih, bind, Except.bind, pure, Except.pure, Functor.map, Except.map,
              BodyStatement.linesOf]
      | false =>
        cases hrest : rest.mapM PropertyDecl.statement <;>
          simp [hrest, ih, bind, Except.bind, pure, Except.pure, Functor.map, Except.map,
            BodyStatement.linesOf, PropertyDecl.fieldValue_text]

/-- What a class file imports from the library of the language. -/
def libraryImports (c : ClassDecl) : List String :=
  let typing := (if c.properties.any (·.type.hasSequence) then ["List"] else [])
    ++ (if c.properties.any (·.type.hasNullable) then ["Optional"] else [])
  [if c.properties.any usesField then "from dataclasses import dataclass, field"
    else "from dataclasses import dataclass"]
    ++ (if typing.isEmpty then [] else ["from typing import " ++ String.intercalate ", " typing])

/-- The lines of a class file with this body. -/
def pythonLines (c : ClassDecl) (body : List BodyStatement) : List String :=
  [pythonHeader, "from __future__ import annotations", ""] ++ libraryImports c
    ++ (if c.imports.isEmpty then [] else "" :: c.imports.map Import.line)
    ++ ["", "", "@dataclass",
      "class " ++ c.name ++ (match c.parent with
        | some p => "(" ++ p ++ ")"
        | none => "") ++ ":"]
    ++ (if body.isEmpty then [indent 1 "pass"] else BodyStatement.linesOf true false body)

theorem pythonImports_eq (c : ClassDecl) : pythonImports c =
    libraryImports c ++ (if c.imports.isEmpty then [] else "" :: c.imports.map Import.line) := by
  simp [pythonImports, libraryImports, ClassDecl.imports, Function.comp_def, Import.line,
    Import.ofClass]

theorem linesOf_eq_nil {isFirst afterAccessor : Bool} {body : List BodyStatement} :
    BodyStatement.linesOf isFirst afterAccessor body = [] ↔ body = [] := by
  rcases body with _ | ⟨_ | _, _⟩ <;> simp [BodyStatement.linesOf]

/-- A class file is written if all statements of its body are, and consists of these lines. -/
theorem python_eq (c : ClassDecl) :
    python c = (fun body => lines (pythonLines c body)) <$>
      c.properties.mapM PropertyDecl.statement := by
  rw [python, pythonProperties_eq, pythonImports_eq]
  cases c.properties.mapM PropertyDecl.statement with
  | error e => rfl
  | ok body =>
    simp only [bind, Except.bind, pure, Except.pure, Functor.map, Except.map, pythonLines]
    have hempty : (BodyStatement.linesOf true false body).isEmpty = body.isEmpty := by
      rw [Bool.eq_iff_iff, List.isEmpty_iff, List.isEmpty_iff, linesOf_eq_nil]
    rw [hempty]
    cases c.parent <;> simp

end ClassFile

end ViewModel
