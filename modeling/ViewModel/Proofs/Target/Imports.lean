import Mathlib.Data.String.Basic
import ViewModel.Proofs.Target.ClassBody

/-!
What class files import, against the names that they mention. A file is taken as lines of parts, in
which the names of classes and of the library are told from all other text: words of the language,
names of members, constants and expressions. Every name that is mentioned is imported, except that
of the class itself, and nothing else is.
-/

namespace ViewModel

open Source (Declaration)

/-- What is sorted keeps its order where repetitions are left out. -/
theorem pairwise_lt_eraseDups {names : List String} (h : names.Pairwise (· ≤ ·)) :
    names.eraseDups.Pairwise (· < ·) := by
  match names with
  | [] => simp
  | n :: rest =>
    obtain ⟨hn, hrest⟩ := List.pairwise_cons.mp h
    have hshorter := List.length_filter_le (fun b => !b == n) rest
    rw [List.eraseDups_cons]
    refine List.pairwise_cons.mpr ⟨fun b hb => ?_, pairwise_lt_eraseDups (hrest.filter _)⟩
    obtain ⟨hb, hne⟩ := List.mem_filter.mp (List.mem_eraseDups.mp hb)
    exact lt_of_le_of_ne (hn b hb) fun heq => by simp [heq] at hne
termination_by names.length

theorem ClassDecl.references_sorted (c : ClassDecl) : c.references.Pairwise (· < ·) := by
  refine pairwise_lt_eraseDups (List.Pairwise.imp (fun h => of_decide_eq_true h) ?_)
  exact List.pairwise_mergeSort (fun a b c => by simpa using le_trans)
    (fun a b => by simpa using le_total a b) _

namespace ClassFile

/-- A part of a class file: the name of a class or of something from the library, or other text. -/
inductive Part
  | name (s : String)
  | text (s : String)
  deriving DecidableEq

namespace Part

def shown : Part → String
  | name s => s
  | text s => s

/-- The text of a line. -/
def line (parts : List Part) : String := String.join (parts.map shown)

@[simp] theorem line_nil : line [] = "" := rfl

@[simp] theorem line_cons (p : Part) (parts : List Part) :
    line (p :: parts) = p.shown ++ line parts := by
  simp [line]

@[simp] theorem line_append (parts more : List Part) :
    line (parts ++ more) = line parts ++ line more := by
  simp [line]

end Part

/-- The class that a class extends, between other text. -/
def parentParts (before after : String) : Option String → List Part
  | some parent => [.text before, .name parent, .text after]
  | none => []

theorem mem_parentParts {before after n : String} {parent : Option String} :
    .name n ∈ parentParts before after parent ↔ parent = some n := by
  cases parent <;> simp [parentParts, eq_comm]

end ClassFile

open ClassFile (Part)

namespace TypeRef

variable {t : TypeRef} {parts : List Part} {n : String}

def typescriptParts : TypeRef → Except PrintError (List Part)
  | unresolved => .error .unresolvedType
  | primitive .string => .ok [.text "string"]
  | primitive .boolean => .ok [.text "boolean"]
  | primitive _ => .ok [.text "number"]
  | reference c => .ok [.name c]
  | sequence t => do
      let element ← t.typescriptParts
      return (if t.isNullable then .text "(" :: element ++ [.text ")"] else element) ++ [.text "[]"]
  | nullable t => return (← t.typescriptParts) ++ [.text " | null"]

theorem typescript_eq (t : TypeRef) : t.typescript = Part.line <$> t.typescriptParts := by
  induction t with
  | unresolved => rfl
  | primitive kind => cases kind <;> rfl
  | reference c => simp [typescript, typescriptParts, Functor.map, Except.map, Part.shown]
  | sequence t ih =>
    rw [typescript, typescriptParts, ih]
    cases t.typescriptParts with
    | error e => rfl
    | ok element =>
      cases hnull : t.isNullable <;>
        simp [bind, Except.bind, pure, Except.pure, Functor.map, Except.map, Part.shown,
          String.append_assoc]
  | nullable t ih =>
    rw [typescript, typescriptParts, ih]
    cases t.typescriptParts <;>
      simp [bind, Except.bind, pure, Except.pure, Functor.map, Except.map, Part.shown]

/-- A type mentions its classes. -/
theorem mem_typescriptParts (h : t.typescriptParts = .ok parts) :
    .name n ∈ parts ↔ n ∈ t.classes := by
  induction t generalizing parts with
  | unresolved => cases h
  | primitive kind => cases kind <;> cases h <;> simp [classes]
  | reference c =>
    cases h
    simp [classes]
  | sequence t ih =>
    obtain ⟨element, helement, hparts⟩ := Success.bind_eq_ok.mp h
    obtain rfl := Success.pure_eq_ok.mp hparts
    rw [classes, ← ih helement]
    split <;> simp
  | nullable t ih =>
    obtain ⟨inner, hinner, hparts⟩ := Success.bind_eq_ok.mp h
    obtain rfl := Success.pure_eq_ok.mp hparts
    rw [classes, ← ih hinner]
    simp

def pythonParts : TypeRef → Except PrintError (List Part)
  | unresolved => .error .unresolvedType
  | primitive .string => .ok [.text "str"]
  | primitive .boolean => .ok [.text "bool"]
  | primitive .integer => .ok [.text "int"]
  | primitive .float => .ok [.text "float"]
  | reference c => .ok [.name c]
  | sequence t => return [.name "List", .text "["] ++ (← t.pythonParts) ++ [.text "]"]
  | nullable t => return [.name "Optional", .text "["] ++ (← t.pythonParts) ++ [.text "]"]

theorem python_eq (t : TypeRef) : t.python = Part.line <$> t.pythonParts := by
  induction t with
  | unresolved => rfl
  | primitive kind => cases kind <;> rfl
  | reference c => simp [python, pythonParts, Functor.map, Except.map, Part.shown]
  | sequence t ih | nullable t ih =>
    rw [python, pythonParts, ih]
    cases t.pythonParts with
    | error e => rfl
    | ok inner =>
      simp [bind, Except.bind, pure, Except.pure, Functor.map, Except.map, Part.shown,
        ← String.append_assoc]

/-- A type mentions its classes and the generic types that it is made with. -/
theorem mem_pythonParts (h : t.pythonParts = .ok parts) : .name n ∈ parts ↔
    n ∈ t.classes ∨ n = "List" ∧ t.hasSequence = true ∨ n = "Optional" ∧ t.hasNullable = true := by
  induction t generalizing parts with
  | unresolved => cases h
  | primitive kind => cases kind <;> cases h <;> simp [classes, hasSequence, hasNullable]
  | reference c =>
    cases h
    simp [classes, hasSequence, hasNullable]
  | sequence t ih =>
    obtain ⟨inner, hinner, hparts⟩ := Success.bind_eq_ok.mp h
    obtain rfl := Success.pure_eq_ok.mp hparts
    by_cases hlist : n = "List" <;> simp [ih hinner, classes, hasSequence, hasNullable, hlist]
  | nullable t ih =>
    obtain ⟨inner, hinner, hparts⟩ := Success.bind_eq_ok.mp h
    obtain rfl := Success.pure_eq_ok.mp hparts
    by_cases hoptional : n = "Optional" <;>
      simp [ih hinner, classes, hasSequence, hasNullable, hoptional]

end TypeRef

namespace ClassFile

variable {c : ClassDecl} {p : PropertyDecl} {parts : List Part} {ls : List (List Part)} {n : String}

/-- What properties mention, taken together. -/
theorem mem_flatten_iff {P : PropertyDecl → Prop}
    {f : PropertyDecl → Except PrintError (List (List Part))}
    (hf : ∀ p ls, f p = .ok ls → (.name n ∈ ls.flatten ↔ P p)) {ps : List PropertyDecl}
    {lss : List (List (List Part))} (h : ps.mapM f = .ok lss) :
    .name n ∈ lss.flatten.flatten ↔ ∃ p ∈ ps, P p := by
  have hall := Success.mapM_eq_ok.mp h
  clear h
  induction hall with
  | nil => simp
  | cons hp _ ih => simp [hf _ _ hp, ih]

/-- The lines of properties are those of each. -/
theorem mapM_lines {f : PropertyDecl → Except PrintError (List (List Part))}
    {g : PropertyDecl → Except PrintError (List String)}
    (hfg : ∀ p, g p = List.map Part.line <$> f p) (ps : List PropertyDecl) :
    ps.mapM g = List.map (List.map Part.line) <$> ps.mapM f := by
  induction ps with
  | nil => rfl
  | cons p ps ih =>
    rw [List.mapM_cons, List.mapM_cons, hfg, ih]
    cases f p with
    | error e => rfl
    | ok ls => cases ps.mapM f <;> rfl

section TypeScript

def typescriptInitializerParts (p : PropertyDecl) : List Part :=
  match p.type with
  | .nullable _ => [.text "null"]
  | .primitive k =>
      [.text (primitiveDefault Scalar.braceLiteral typescriptZero k p.default)]
  | .reference c => [.text "new ", .name c, .text "()"]
  | _ => [.text "[]"]

theorem typescriptInitializer_eq (p : PropertyDecl) :
    typescriptInitializer p = Part.line (typescriptInitializerParts p) := by
  rw [typescriptInitializer, typescriptInitializerParts]
  cases p.type <;> simp [Part.shown, String.append_assoc]

theorem mem_typescriptInitializerParts (h : .name n ∈ typescriptInitializerParts p) :
    n ∈ p.type.classes := by
  unfold typescriptInitializerParts at h
  split at h <;> simp_all [TypeRef.classes]

def typescriptPropertyParts (isFirst : Bool) (p : PropertyDecl) :
    Except PrintError (List (List Part)) := do
  let t ← p.type.typescriptParts
  if p.computed then
    let value ← Dialect.typescript.print p.expression
    return (if isFirst then [] else [[]])
      ++ [[.text ("  get " ++ camel p.name ++ "(): ")] ++ t ++ [.text " \x7b"],
        [.text ("    return " ++ value ++ ";")], [.text "  \x7d"]]
  else
    return [[.text ("  " ++ camel p.name ++ ": ")] ++ t ++ [.text " = "]
      ++ typescriptInitializerParts p ++ [.text ";"]]

theorem typescriptProperty_eq (isFirst : Bool) (p : PropertyDecl) :
    typescriptProperty isFirst p = List.map Part.line <$> typescriptPropertyParts isFirst p := by
  rw [typescriptProperty, typescriptPropertyParts, p.type.typescript_eq]
  cases p.type.typescriptParts with
  | error e => rfl
  | ok t =>
    cases hcomputed : p.computed with
    | true =>
      cases hprint : Dialect.typescript.print p.expression <;> cases isFirst <;>
        simp [bind, Except.bind, pure, Except.pure, Functor.map, Except.map, Part.shown,
          String.append_assoc]
    | false =>
      simp [bind, Except.bind, pure, Except.pure, Functor.map, Except.map, Part.shown,
        String.append_assoc, typescriptInitializer_eq]

/-- A property mentions the classes of its type, and its initializer no others. -/
theorem mem_typescriptPropertyParts {isFirst : Bool}
    (h : typescriptPropertyParts isFirst p = .ok ls) :
    .name n ∈ ls.flatten ↔ n ∈ p.type.classes := by
  obtain ⟨t, ht, h⟩ := Success.bind_eq_ok.mp h
  rw [← TypeRef.mem_typescriptParts ht]
  split at h
  next =>
    obtain ⟨value, -, h⟩ := Success.bind_eq_ok.mp h
    obtain rfl := Success.pure_eq_ok.mp h
    cases isFirst <;> simp
  next =>
    obtain rfl := Success.pure_eq_ok.mp h
    have hinitializer := fun h => (TypeRef.mem_typescriptParts ht).mpr
      (mem_typescriptInitializerParts (p := p) (n := n) h)
    simpa using hinitializer

/-- The lines of a class file below its imports. -/
def typescriptBody (c : ClassDecl) : Except PrintError (List (List Part)) := do
  let first ← (c.properties.take 1).mapM (typescriptPropertyParts true)
  let others ← (c.properties.drop 1).mapM (typescriptPropertyParts false)
  return [[.text ("export class " ++ c.name)] ++ parentParts " extends " "" c.parent
      ++ [.text " \x7b"]]
    ++ first.flatten ++ others.flatten ++ [[.text "\x7d"]]

/-- The lines of a class file above its body. -/
def typescriptHead (c : ClassDecl) : List String :=
  ["// Generated by isomodel. Do not edit."]
    ++ c.references.map (fun n => "import \x7b " ++ n ++ " \x7d from \"./" ++ n ++ "\";") ++ [""]

theorem typescript_eq (c : ClassDecl) : typescript c =
    (fun body => lines (typescriptHead c ++ body.map Part.line)) <$> typescriptBody c := by
  rw [typescript, typescriptBody, mapM_lines (typescriptProperty_eq true),
    mapM_lines (typescriptProperty_eq false)]
  cases (c.properties.take 1).mapM (typescriptPropertyParts true) with
  | error e => rfl
  | ok first =>
    cases (c.properties.drop 1).mapM (typescriptPropertyParts false) with
    | error e => rfl
    | ok others =>
      cases hparent : c.parent <;>
        simp [bind, Except.bind, pure, Except.pure, Functor.map, Except.map, Part.shown,
          typescriptHead, parentParts, List.map_flatten, String.append_assoc]

theorem mem_typescriptBody (h : typescriptBody c = .ok ls) : .name n ∈ ls.flatten ↔
    c.parent = some n ∨ ∃ p ∈ c.properties, n ∈ p.type.classes := by
  obtain ⟨first, hfirst, h⟩ := Success.bind_eq_ok.mp h
  obtain ⟨others, hothers, h⟩ := Success.bind_eq_ok.mp h
  obtain rfl := Success.pure_eq_ok.mp h
  have hmentioned : (∃ p ∈ c.properties, n ∈ p.type.classes) ↔
      .name n ∈ first.flatten.flatten ∨ .name n ∈ others.flatten.flatten := by
    rw [mem_flatten_iff (fun _ _ => mem_typescriptPropertyParts) hfirst,
      mem_flatten_iff (fun _ _ => mem_typescriptPropertyParts) hothers, ← exists_or]
    refine exists_congr fun p => ?_
    rw [← or_and_right, ← List.mem_append, List.take_append_drop]
  rw [hmentioned, ← @mem_parentParts " extends " "" n c.parent]
  simp only [List.flatten_append, List.mem_append]
  simp [or_assoc]

end TypeScript

section Python

/-- The names from the library that class files import. -/
def libraryNames : List String := ["List", "Optional", "field", "dataclass"]

/-- Names imported from a module of the library. -/
structure LibraryImport where
  module : String
  names : List String

def LibraryImport.line (i : LibraryImport) : String :=
  "from " ++ i.module ++ " import " ++ String.intercalate ", " i.names

/-- What a class file imports from the library. -/
def library (c : ClassDecl) : List LibraryImport :=
  let typing := (if c.properties.any (·.type.hasSequence) then ["List"] else [])
    ++ (if c.properties.any (·.type.hasNullable) then ["Optional"] else [])
  [⟨"dataclasses", "dataclass" :: if c.properties.any usesField then ["field"] else []⟩]
    ++ (if typing.isEmpty then [] else [⟨"typing", typing⟩])

theorem libraryImports_eq (c : ClassDecl) :
    libraryImports c = (library c).map LibraryImport.line := by
  unfold libraryImports library
  cases c.properties.any usesField <;> cases c.properties.any (·.type.hasSequence) <;>
    cases c.properties.any (·.type.hasNullable) <;> rfl

theorem mem_library : n ∈ (library c).flatMap LibraryImport.names ↔ n = "dataclass" ∨
    n = "field" ∧ (∃ p ∈ c.properties, usesField p = true) ∨
    n = "List" ∧ (∃ p ∈ c.properties, p.type.hasSequence = true) ∨
    n = "Optional" ∧ ∃ p ∈ c.properties, p.type.hasNullable = true := by
  simp only [← List.any_eq_true, library]
  cases c.properties.any usesField <;> cases c.properties.any (·.type.hasSequence) <;>
    cases c.properties.any (·.type.hasNullable) <;> simp

def pythonDefaultParts (p : PropertyDecl) : List Part :=
  match p.type with
  | .nullable _ => [.text "None"]
  | .primitive k => [.text (primitiveDefault Scalar.pythonLiteral pythonZero k p.default)]
  | .reference c => [.name "field", .text "(default_factory=", .name c, .text ")"]
  | _ => [.name "field", .text "(default_factory=list)"]

theorem pythonDefault_eq (p : PropertyDecl) :
    pythonDefault p = Part.line (pythonDefaultParts p) := by
  rw [pythonDefault, pythonDefaultParts]
  cases p.type <;> simp [Part.shown, ← String.append_assoc]

/-- A default mentions the function that makes it anew, and the class that it makes. -/
theorem mem_pythonDefaultParts (hfield : p.computed = false) :
    .name n ∈ pythonDefaultParts p ↔
      n = "field" ∧ usesField p = true ∨ p.type = .reference n := by
  rw [pythonDefaultParts, usesField, hfield]
  cases p.type <;> simp [TypeRef.isPrimitive, TypeRef.isNullable, eq_comm]

/-- The lines of properties. -/
def pythonPropertiesParts (isFirst afterAccessor : Bool) :
    List PropertyDecl → Except PrintError (List (List Part))
  | [] => .ok []
  | p :: rest => do
      let t ← p.type.pythonParts
      if p.computed then
        let value ← Dialect.python.print p.expression
        let more ← pythonPropertiesParts false true rest
        return (if isFirst then [] else [[]])
          ++ [[.text (indent 1 "@property")],
            [.text (indent 1 ("def " ++ p.name ++ "(self) -> "))] ++ t ++ [.text ":"],
            [.text (indent 2 ("return " ++ value))]] ++ more
      else
        let more ← pythonPropertiesParts false false rest
        return (if afterAccessor then [[]] else [])
          ++ [[.text (indent 1 (p.name ++ ": "))] ++ t ++ [.text " = "] ++ pythonDefaultParts p]
          ++ more

theorem pythonProperties_parts (isFirst afterAccessor : Bool) (ps : List PropertyDecl) :
    pythonProperties isFirst afterAccessor ps =
      List.map Part.line <$> pythonPropertiesParts isFirst afterAccessor ps := by
  induction ps generalizing isFirst afterAccessor with
  | nil => rfl
  | cons p rest ih =>
    rw [pythonProperties, pythonPropertiesParts, p.type.python_eq]
    cases p.type.pythonParts with
    | error e => rfl
    | ok t =>
      cases hcomputed : p.computed with
      | true =>
        cases hprint : Dialect.python.print p.expression with
        | error e => simp [bind, Except.bind, Functor.map, Except.map]
        | ok value =>
          cases hrest : pythonPropertiesParts false true rest <;> cases isFirst <;>
            simp [hrest, ih, bind, Except.bind, pure, Except.pure, Functor.map, Except.map,
              Part.shown, indent, String.append_assoc]
      | false =>
        cases hrest : pythonPropertiesParts false false rest <;> cases afterAccessor <;>
          simp [hrest, ih, bind, Except.bind, pure, Except.pure, Functor.map, Except.map,
            Part.shown, indent, String.append_assoc, pythonDefault_eq]

/-- The names that a property mentions in its type and its default. -/
def Mentions (p : PropertyDecl) (n : String) : Prop :=
  n ∈ p.type.classes ∨ n = "List" ∧ p.type.hasSequence = true ∨
    n = "Optional" ∧ p.type.hasNullable = true ∨ n = "field" ∧ usesField p = true

theorem mem_pythonPropertiesParts {isFirst afterAccessor : Bool} {ps : List PropertyDecl}
    (h : pythonPropertiesParts isFirst afterAccessor ps = .ok ls) :
    .name n ∈ ls.flatten ↔ ∃ p ∈ ps, Mentions p n := by
  induction ps generalizing isFirst afterAccessor ls with
  | nil =>
    cases h
    simp
  | cons p rest ih =>
    obtain ⟨t, ht, h⟩ := Success.bind_eq_ok.mp h
    have htype := TypeRef.mem_pythonParts (n := n) ht
    split at h
    next hcomputed =>
      obtain ⟨value, -, h⟩ := Success.bind_eq_ok.mp h
      obtain ⟨more, hmore, h⟩ := Success.bind_eq_ok.mp h
      obtain rfl := Success.pure_eq_ok.mp h
      have hp : Mentions p n ↔ .name n ∈ t := by
        simp [Mentions, htype, usesField, hcomputed]
      rw [List.exists_mem_cons_iff, ← ih hmore, hp]
      cases isFirst <;> simp
    next hfield =>
      obtain ⟨more, hmore, h⟩ := Success.bind_eq_ok.mp h
      obtain rfl := Success.pure_eq_ok.mp h
      have hdefault := mem_pythonDefaultParts (n := n) (by simpa using hfield)
      have hp : Mentions p n ↔ .name n ∈ t ∨ .name n ∈ pythonDefaultParts p := by
        have hclass (h : p.type = .reference n) : n ∈ p.type.classes := by
          simp [h, TypeRef.classes]
        rw [htype, hdefault, ← or_assoc, or_iff_left_of_imp fun h => .inl (.inl (hclass h))]
        simp only [Mentions, or_assoc]
      rw [List.exists_mem_cons_iff, ← ih hmore, hp]
      cases afterAccessor <;> simp [or_assoc]

/-- The lines of a class file below its imports. -/
def pythonBody (c : ClassDecl) : Except PrintError (List (List Part)) := do
  let body ← pythonPropertiesParts true false c.properties
  return [[], [], [.text "@", .name "dataclass"],
      [.text ("class " ++ c.name)] ++ parentParts "(" ")" c.parent ++ [.text ":"]]
    ++ (if body.isEmpty then [[.text (indent 1 "pass")]] else body)

/-- The lines of a class file above its body. -/
def pythonHead (c : ClassDecl) : List String :=
  [pythonHeader, "from __future__ import annotations", ""]
    ++ (library c).map LibraryImport.line
    ++ (if c.imports.isEmpty then [] else "" :: c.imports.map Import.line)

theorem python_parts (c : ClassDecl) : python c =
    (fun body => lines (pythonHead c ++ body.map Part.line)) <$> pythonBody c := by
  rw [python, pythonBody, pythonProperties_parts, pythonImports_eq, libraryImports_eq]
  cases pythonPropertiesParts true false c.properties with
  | error e => rfl
  | ok body =>
    cases hparent : c.parent <;> cases body <;>
      simp [bind, Except.bind, pure, Except.pure, Functor.map, Except.map, Part.shown, pythonHead,
        parentParts, String.append_assoc]

theorem mem_pythonBody (h : pythonBody c = .ok ls) : .name n ∈ ls.flatten ↔
    n = "dataclass" ∨ c.parent = some n ∨ ∃ p ∈ c.properties, Mentions p n := by
  obtain ⟨body, hbody, h⟩ := Success.bind_eq_ok.mp h
  obtain rfl := Success.pure_eq_ok.mp h
  rw [← mem_pythonPropertiesParts hbody, ← @mem_parentParts "(" ")" n c.parent]
  cases body <;> simp

/-- Apart from the library, a body mentions what the class extends and the classes of its types. -/
theorem mem_pythonBody_class (h : pythonBody c = .ok ls) (hn : n ∉ libraryNames) :
    .name n ∈ ls.flatten ↔ c.parent = some n ∨ ∃ p ∈ c.properties, n ∈ p.type.classes := by
  simp only [libraryNames, List.mem_cons, List.not_mem_nil, or_false, not_or] at hn
  simp [mem_pythonBody h, Mentions, hn]

/-- What a body mentions by a name of the library, where no class has that name, is imported from
there. -/
theorem mem_pythonBody_library (h : pythonBody c = .ok ls) (hn : n ∈ libraryNames)
    (hclass : ¬(c.parent = some n ∨ ∃ p ∈ c.properties, n ∈ p.type.classes)) :
    .name n ∈ ls.flatten ↔ n ∈ (library c).flatMap LibraryImport.names := by
  obtain ⟨hparent, htypes⟩ := not_or.mp hclass
  have hmentions : (∃ p ∈ c.properties, Mentions p n) ↔
      ∃ p ∈ c.properties, n = "List" ∧ p.type.hasSequence = true ∨
        n = "Optional" ∧ p.type.hasNullable = true ∨ n = "field" ∧ usesField p = true :=
    exists_congr fun p => and_congr_right fun hp => or_iff_right fun hmem => htypes ⟨p, hp, hmem⟩
  rw [mem_pythonBody h, or_iff_right hparent, hmentions, mem_library]
  simp only [libraryNames, List.mem_cons, List.not_mem_nil, or_false] at hn
  rcases hn with rfl | rfl | rfl | rfl <;> simp

theorem library_subset (h : n ∈ (library c).flatMap LibraryImport.names) : n ∈ libraryNames := by
  rcases mem_library.mp h with rfl | ⟨rfl, -⟩ | ⟨rfl, -⟩ | ⟨rfl, -⟩ <;> decide

end Python

end ClassFile

namespace Manifest

variable {all : List Declaration} {m m' : Manifest} {c : ClassDecl}

/-- What a compiled class extends or has in its types is a class of the set. -/
theorem compiled_mentions (hm : Resolve.manifest all = .ok m) (hcompile : m.compile = .ok m')
    (hc : c ∈ m'.classes) {n : String}
    (hn : c.parent = some n ∨ ∃ p ∈ c.properties, n ∈ p.type.classes) : n ∈ m'.names := by
  rcases hn with hparent | ⟨p, hp, hclass⟩
  · exact compiled_parent hm hcompile hc hparent
  · exact (compiled_formed hm hcompile c hc p hp).type.mem n hclass

open ClassFile in
/-- Imports are exact. Where no class of a build is named like a name of the library, the classes
that the files of a class import are sorted, each once, classes of the set, and those that the files
mention, other than the class itself; and from the library is imported just what is mentioned. -/
theorem imports_exact (hm : Resolve.manifest all = .ok m) (hcompile : m.compile = .ok m')
    (hlibrary : ∀ n ∈ libraryNames, n ∉ m'.names) (hc : c ∈ m'.classes) :
    (c.references.Pairwise (· < ·) ∧ ∀ n ∈ c.references, n ∈ m'.names) ∧
    (∃ body, typescriptBody c = .ok body ∧
      typescript c = .ok (lines (typescriptHead c ++ body.map Part.line)) ∧
      ∀ n, n ∈ c.references ↔ n ≠ c.name ∧ .name n ∈ body.flatten) ∧
    ∃ body, pythonBody c = .ok body ∧
      python c = .ok (lines (pythonHead c ++ body.map Part.line)) ∧
      (∀ n, n ∈ c.references ↔ n ≠ c.name ∧ n ∉ libraryNames ∧ .name n ∈ body.flatten) ∧
      ∀ n, n ∈ (library c).flatMap LibraryImport.names ↔
        n ∈ libraryNames ∧ .name n ∈ body.flatten := by
  have hmentions := fun n => compiled_mentions (n := n) hm hcompile hc
  have hformed := compiled_formed hm hcompile c hc
  refine ⟨⟨c.references_sorted, fun n => compiled_references hm hcompile hc⟩, ?_, ?_⟩
  · obtain ⟨text, htext⟩ := Target.typescript.exists_classFile "" hformed
    have htypescript : typescript c = .ok text := htext
    rw [typescript_eq] at htypescript ⊢
    obtain ⟨body, hbody, -⟩ := Success.map_eq_ok.mp htypescript
    refine ⟨body, hbody, Success.map_eq_ok.mpr ⟨body, hbody, rfl⟩, fun n => ?_⟩
    rw [ClassDecl.mem_references_iff, mem_typescriptBody hbody]
  · obtain ⟨text, htext⟩ := Target.python.exists_classFile "" hformed
    have hpython : python c = .ok text := htext
    rw [python_parts] at hpython ⊢
    obtain ⟨body, hbody, -⟩ := Success.map_eq_ok.mp hpython
    refine ⟨body, hbody, Success.map_eq_ok.mpr ⟨body, hbody, rfl⟩, fun n => ?_, fun n => ?_⟩
    · rw [ClassDecl.mem_references_iff]
      refine and_congr_right fun _ => ⟨fun hn => ?_, fun ⟨hn, hname⟩ => ?_⟩
      · have hclass : n ∉ libraryNames := fun hmem => hlibrary n hmem (hmentions n hn)
        exact ⟨hclass, (mem_pythonBody_class hbody hclass).mpr hn⟩
      · exact (mem_pythonBody_class hbody hn).mp hname
    · have himported (hn : n ∈ libraryNames) :=
        mem_pythonBody_library hbody hn fun hclass => hlibrary n hn (hmentions n hclass)
      constructor
      · intro hn
        have hmem := library_subset hn
        exact ⟨hmem, (himported hmem).mpr hn⟩
      · rintro ⟨hmem, hname⟩
        exact (himported hmem).mp hname

/-- An item imports its tag and `Optional`, but needs neither `List` nor `field`. -/
theorem imports_exact_tagged :
    let item := Sample.itemClass .boolean Sample.sameExpr
    item.references = ["Tag"] ∧
      (∃ body, ClassFile.typescriptBody item = .ok body ∧ .name "Tag" ∈ body.flatten) ∧
      ∃ body, ClassFile.pythonBody item = .ok body ∧
        .name "Tag" ∈ body.flatten ∧ .name "Optional" ∈ body.flatten ∧
        .name "List" ∉ body.flatten ∧ .name "field" ∉ body.flatten := by
  intro item
  have hitem : item ∈ Sample.compiled.classes :=
    List.mem_cons_of_mem _ (List.mem_singleton_self _)
  have hreferences : item.references = ["Tag"] := by decide +kernel
  have htag : "Tag" ∈ item.references := by simp [hreferences]
  have hlibrary : (ClassFile.library item).flatMap ClassFile.LibraryImport.names =
      ["dataclass", "Optional"] := rfl
  obtain ⟨-, ⟨script, hscript, -, hclasses⟩, body, hbody, -, hnames, himported⟩ :=
    imports_exact Sample.built_eq Sample.compiled_eq (by decide) hitem
  refine ⟨hreferences, ⟨script, hscript, ((hclasses "Tag").mp htag).2⟩, body, hbody,
    ((hnames "Tag").mp htag).2.2, ((himported "Optional").mp (by simp [hlibrary])).2,
    fun hlist => ?_, fun hfield => ?_⟩
  · have hmem := (himported "List").mpr ⟨by decide, hlist⟩
    simp [hlibrary] at hmem
  · have hmem := (himported "field").mpr ⟨by decide, hfield⟩
    simp [hlibrary] at hmem

end Manifest

end ViewModel
