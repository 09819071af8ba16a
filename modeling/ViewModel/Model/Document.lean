import ViewModel.Build.Error
import ViewModel.Model.Manifest
import ViewModel.Value

/-!
Manifests as plain data: mappings with fixed keys, in which every type and every expression names
its own kind.
-/

namespace ViewModel

inductive DocumentError
  | missingKey
  | unknownWord
  | notAMapping
  | wrongShape
  | typeKind (kind : String)
  | expressionKind (kind : String)
  | build (e : BuildError)
  deriving DecidableEq

namespace Document

theorem sizeOf_lt_of_find? {es : List (String × Value)} {key : String} {v : Value}
    (h : Entries.find? es key = some v) : sizeOf v < sizeOf es := by
  induction es with
  | nil => simp [Entries.find?] at h
  | cons e rest ih =>
    obtain ⟨k, w⟩ := e
    rw [Entries.find?] at h
    split at h
    · injection h with h
      subst h
      simp
      omega
    · have := ih h
      simp
      omega

/-- The entry of a key that has to be there. -/
def required (es : List (String × Value)) (key : String) :
    Except DocumentError { v : Value // Entries.find? es key = some v } :=
  match (Entries.find? es key).attach with
  | some v => .ok v
  | none => .error .missingKey

/-- The entry of a key, null if it is not there. -/
def entry (es : List (String × Value)) (key : String) : Value :=
  (Entries.find? es key).getD .null

/-- The elements of what can be walked through: lists, characters of texts, keys of mappings. -/
def elements : Value → Except DocumentError (List Value)
  | .list xs => .ok xs
  | .text s => .ok (s.toList.map (fun c => .text (String.singleton c)))
  | .mapping es => .ok (es.map (fun e => .text e.1))
  | _ => .error .wrongShape

def text : Value → Except DocumentError String
  | .text s => .ok s
  | _ => .error .wrongShape

def text? : Value → Except DocumentError (Option String)
  | .null => .ok none
  | .text s => .ok (some s)
  | _ => .error .wrongShape

def index : Value → Except DocumentError Int
  | .int n => .ok n
  | .bool b => .ok (if b then 1 else 0)
  | _ => .error .wrongShape

def scalar (v : Value) : Except DocumentError Scalar :=
  match Scalar.ofValue? v with
  | some s => .ok s
  | none => .error .wrongShape

/-- A truth value, which is false where it is left out. -/
def flag (es : List (String × Value)) (key : String) : Except DocumentError Bool :=
  match Entries.find? es key with
  | none => .ok false
  | some (.bool b) => .ok b
  | some _ => .error .wrongShape

end Document

namespace TypeRef

def toValue : TypeRef → Value
  | unresolved => .null
  | primitive k => .mapping [("kind", .text "primitive"), ("name", .text k.name)]
  | reference c => .mapping [("kind", .text "reference"), ("class", .text c)]
  | sequence t => .mapping [("kind", .text "sequence"), ("element", t.toValue)]
  | nullable t => .mapping [("kind", .text "nullable"), ("inner", t.toValue)]

open Document in
def ofValue (v : Value) : Except DocumentError TypeRef :=
  match v with
  | .null => .ok unresolved
  | .mapping es =>
      match entry es "kind" with
      | .text "primitive" => do
          match (← required es "name").1 with
          | .text s =>
              match Primitive.ofName? s with
              | some k => return primitive k
              | none => .error .unknownWord
          | _ => .error .unknownWord
      | .text "reference" => return reference (← text (← required es "class").1)
      | .text "sequence" => do
          let t ← required es "element"
          return sequence (← ofValue t.1)
      | .text "nullable" => do
          let t ← required es "inner"
          return nullable (← ofValue t.1)
      | k => .error (.typeKind k.shown)
  | _ => .error .notAMapping
termination_by sizeOf v
decreasing_by all_goals
  have := sizeOf_lt_of_find? t.2
  simp
  omega

end TypeRef

namespace Expr

def toValue : Expr → Value
  | hole => .null
  | binary op l r =>
      .mapping [("type", .text "binary"), ("operator", .text op.symbol), ("left", l.toValue),
        ("right", r.toValue)]
  | member path nullSafe =>
      .mapping [("type", .text "member"), ("path", .list (path.map .text)),
        ("null_safe", .list (nullSafe.map .int))]
  | literal s => .mapping [("type", .text "lit"), ("value", s.toValue)]
  | not e => .mapping [("type", .text "unary"), ("operator", .text "NOT"), ("operand", e.toValue)]
  | nullCheck e negated =>
      .mapping [("type", .text "null_check"), ("operand", e.toValue), ("negated", .bool negated)]
  | ternary c t f =>
      .mapping [("type", .text "ternary"), ("condition", c.toValue), ("when_true", t.toValue),
        ("when_false", f.toValue)]

open Document in
def ofValue (v : Value) : Except DocumentError Expr :=
  match v with
  | .null => .ok hole
  | .mapping es =>
      match entry es "type" with
      | .text "binary" => do
          let op ← match (← required es "operator").1 with
            | .text s => match BinaryOp.ofSymbol? s with
              | some op => pure op
              | none => .error .unknownWord
            | _ => .error .unknownWord
          let l ← required es "left"
          let left ← ofValue l.1
          let r ← required es "right"
          return binary op left (← ofValue r.1)
      | .text "member" => do
          let path ← (← elements (← required es "path").1).mapM text
          let nullSafe ← match Entries.find? es "null_safe" with
            | some v => (← elements v).mapM index
            | none => pure []
          return member path nullSafe
      | .text "lit" => return literal (← scalar (← required es "value").1)
      | .text "unary" => do
          match (← required es "operator").1 with
          | .text "NOT" =>
              let e ← required es "operand"
              return not (← ofValue e.1)
          | _ => .error .unknownWord
      | .text "null_check" => do
          let e ← required es "operand"
          let operand ← ofValue e.1
          return nullCheck operand (← flag es "negated")
      | .text "ternary" => do
          let c ← required es "condition"
          let condition ← ofValue c.1
          let t ← required es "when_true"
          let whenTrue ← ofValue t.1
          let f ← required es "when_false"
          return ternary condition whenTrue (← ofValue f.1)
      | k => .error (.expressionKind k.shown)
  | _ => .error .notAMapping
termination_by sizeOf v
decreasing_by
  · have := sizeOf_lt_of_find? l.2; simp; omega
  · have := sizeOf_lt_of_find? r.2; simp; omega
  · have := sizeOf_lt_of_find? e.2; simp; omega
  · have := sizeOf_lt_of_find? e.2; simp; omega
  · have := sizeOf_lt_of_find? c.2; simp; omega
  · have := sizeOf_lt_of_find? t.2; simp; omega
  · have := sizeOf_lt_of_find? f.2; simp; omega

end Expr

def PropertyDecl.toValue (p : PropertyDecl) : Value :=
  .mapping [("name", .text p.name), ("type", p.type.toValue), ("computed", .bool p.computed),
    ("expression", p.expression.toValue), ("default", p.default.toValue)]

open Document in
def PropertyDecl.ofValue : Value → Except DocumentError PropertyDecl
  | .mapping es => do
      let name ← text (← required es "name").1
      let type ← TypeRef.ofValue (entry es "type")
      let computed ← flag es "computed"
      let expression ← Expr.ofValue (entry es "expression")
      let default ← scalar (entry es "default")
      return { name, type, computed, expression, default }
  | _ => .error .wrongShape

namespace ClassDecl

def toValue (c : ClassDecl) : Value :=
  .mapping [("name", .text c.name), ("parent", (c.parent.map Value.text).getD .null),
    ("properties", .list (c.properties.map PropertyDecl.toValue)),
    ("source", (c.source.map Value.text).getD .null)]

open Document in
/-- A class without its parent, which can only be found among the others. -/
def ofValue : Value → Except DocumentError ClassDecl
  | .mapping es => do
      let name ← text (← required es "name").1
      let properties ← match Entries.find? es "properties" with
        | some v => (← elements v).mapM PropertyDecl.ofValue
        | none => pure []
      return { name, properties, source := ← text? (entry es "source") }
  | _ => .error .wrongShape

/-- The parent that the entry of a class names; it has to be one of the classes. -/
def parentOfValue (names : List String) : Value → Except DocumentError (Option String)
  | .mapping es =>
      let unknown (shown : String) : Except DocumentError (Option String) :=
        .error (.build ⟨(Document.entry es "name").shown, "", .unknownParent shown⟩)
      match Document.entry es "parent" with
      | .null => .ok none
      | .text s => if names.contains s then .ok (some s) else unknown s
      | v => unknown v.shown
  | _ => .ok none

end ClassDecl

namespace Manifest

def toValue (m : Manifest) : Value :=
  .mapping [("classes", .list (m.classes.map ClassDecl.toValue))]

/-- Adds the class of each entry in order. -/
def addEntries (m : Manifest) : List Value → Except DocumentError Manifest
  | [] => .ok m
  | v :: rest => do
      let c ← ClassDecl.ofValue v
      match m.add? c with
      | some m => m.addEntries rest
      | none => .error (.build ⟨c.name, "", .duplicateClass⟩)

def ofValue : Value → Except DocumentError Manifest
  | .mapping es => do
      let entries ← match Entries.find? es "classes" with
        | some v => Document.elements v
        | none => pure []
      let m ← addEntries ⟨[]⟩ entries
      let parents ← entries.mapM (ClassDecl.parentOfValue m.names)
      return ⟨List.zipWith (fun (c : ClassDecl) p => { c with parent := p }) m.classes parents⟩
  | _ => .error .notAMapping

end Manifest

end ViewModel
