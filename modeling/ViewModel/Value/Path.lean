import ViewModel.Value

/-!
Reading data along a path. A mapping is read by key, a list by index, a record by the name of a
public attribute; whatever is missing on the way is `null`.
-/

namespace ViewModel

/-- The index that a segment writes in ASCII digits. -/
def indexOf? (segment : List Char) : Option Nat :=
  if segment ≠ [] ∧ segment.all Char.isDigit then some (Nat.ofDigitChars 10 segment 0) else none

/-- The segments of a dotted path. -/
def dotted (path : String) : List String := (path.toList.splitOn '.').map String.ofList

namespace Value

/-- The part of a value that a segment names. -/
def segment (v : Value) (name : String) : Value :=
  if name = "" then null
  else
    match v with
    | mapping es => (Entries.find? es name).getD null
    | list xs =>
        match indexOf? name.toList with
        | some i => xs[i]?.getD null
        | none => null
    | record _ _ attributes =>
        if name.toList.head? = some '_' then null
        else (Entries.find? attributes name).getD null
    | _ => null

/-- Follows segments from a value. -/
def follow (v : Value) (segments : List String) : Value := segments.foldl segment v

/-- Reads a dotted path; the empty path is the value itself. -/
def resolve (root : Value) (path : String) : Value :=
  if path = "" then root else root.follow (dotted path)

@[simp] theorem segment_null (name : String) : null.segment name = null := by
  simp [segment]

@[simp] theorem follow_null (segments : List String) : null.follow segments = null := by
  induction segments with
  | nil => rfl
  | cons s rest ih => simp [follow] at ih ⊢; exact ih

@[simp] theorem follow_append (v : Value) (a b : List String) :
    v.follow (a ++ b) = (v.follow a).follow b := by
  simp [follow]

@[simp] theorem resolve_empty (v : Value) : v.resolve "" = v := by simp [resolve]

/-- The one truth of conditions in layouts and templates: nothing, `false`, zero, the empty text
and the empty list are false; mappings are true, also the empty one. -/
def isTruthy : Value → Bool
  | null => false
  | bool b => b
  | int n => n != 0
  | float x => x.position? != some (.units 0)
  | text s => s != ""
  | list xs => !xs.isEmpty
  | mapping _ => true
  | record .. => true

end Value

end ViewModel
