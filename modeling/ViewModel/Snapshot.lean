import ViewModel.Json.Reader
import ViewModel.Value.Path

/-!
The state that a page is made from: six fields of data, and what one module sees of them.
-/

namespace ViewModel

/-- The whole state of an application at one moment. -/
structure Snapshot where
  «global» : Value := .mapping []
  config : Value := .mapping []
  entry : Value := .mapping []
  user : Value := .mapping []
  state : Value := .mapping []
  modules : Value := .mapping []
  deriving Inhabited

inductive SnapshotError
  | notAnObject (kind : String)
  | json (e : JsonError)

def SnapshotError.message : SnapshotError → String
  | notAnObject kind => "state snapshot must be an object, got " ++ kind
  | json e => "invalid state JSON: " ++ e.message

namespace Snapshot

/-- The field of a mapping, or the empty one where it is missing or null. -/
def field (es : List (String × Value)) (key : String) : Value :=
  match Entries.find? es key with
  | none | some .null => .mapping []
  | some v => v

/-- Other keys are ignored. -/
def ofValue : Value → Except SnapshotError Snapshot
  | .mapping es =>
      .ok ⟨field es "global", field es "config", field es "entry", field es "user",
        field es "state", field es "modules"⟩
  | v => .error (.notAnObject v.kindName)

def ofText (s : String) : Except SnapshotError Snapshot :=
  match Json.read s with
  | .ok v => ofValue v
  | .error e => .error (.json e)

/-- The fields by name. -/
def scope (s : Snapshot) : List (String × Value) :=
  [("global", s.global), ("config", s.config), ("entry", s.entry), ("user", s.user),
    ("state", s.state), ("modules", s.modules)]

def toValue (s : Snapshot) : Value := .mapping s.scope

def resolve (s : Snapshot) (path : String) : Value := s.toValue.resolve path

end Snapshot

/-- What one module sees: the snapshot and the value it stands for. -/
structure RenderContext where
  snapshot : Snapshot
  module : Value := .null
  deriving Inhabited

namespace RenderContext

/-- The same context for another value. -/
def withModule (c : RenderContext) (v : Value) : RenderContext := { c with module := v }

/-- The fields of the snapshot, and `module`. -/
def scope (c : RenderContext) : Value := .mapping (c.snapshot.scope ++ [("module", c.module)])

def resolve (c : RenderContext) (path : String) : Value := c.scope.resolve path

end RenderContext

end ViewModel
