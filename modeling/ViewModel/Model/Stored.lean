import ViewModel.Json.Reader
import ViewModel.Json.Writer
import ViewModel.Model.Document
import ViewModel.Yaml.Node
import ViewModel.Yaml.Writer

/-!
Manifests as text, in JSON or in YAML.
-/

namespace ViewModel

inductive StoredError
  | json (e : JsonError)
  | yaml (e : Yaml.YamlError)
  | document (e : DocumentError)

/-- The forms that a manifest is stored in. -/
inductive Storage
  | json
  | yaml
  deriving DecidableEq

namespace Manifest

def toJson (m : Manifest) : String := Json.writeSorted m.toValue

def ofJson (text : String) : Except StoredError Manifest := do
  let v ← (Json.read text).mapError .json
  (ofValue v).mapError .document

def toYaml (m : Manifest) : String :=
  match m.toValue with
  | .mapping es => Yaml.write es
  | _ => ""

def ofYaml (text : String) : Except StoredError Manifest := do
  let d ← (Yaml.read text).mapError .yaml
  (ofValue d.toValue).mapError .document

end Manifest

namespace Storage

def write : Storage → Manifest → String
  | json => Manifest.toJson
  | yaml => Manifest.toYaml

def read : Storage → String → Except StoredError Manifest
  | json => Manifest.ofJson
  | yaml => Manifest.ofYaml

/-- Whether a text that was written is read and written again as the same text. -/
def isStable (s : Storage) (text : String) : Except StoredError Bool :=
  return s.write (← s.read text) == text

end Storage

end ViewModel
