import ViewModel.Target.ClassFile
import ViewModel.Text.Lines
import ViewModel.Yaml.Node

/-!
The settings of a build. They come from a mapping, each under its own key, and may then be
overridden one by one. Only the targets and the number of workers are checked here; any datum may
stand for the others, and one that is no text is refused where it is used.
-/

namespace ViewModel

inductive ConfigError
  | unknownKeys (keys : List String)
  | keysNotText
  | unknownTarget (shown : String)
  | targetsNotListed
  | workersNotNumber
  | tooFewWorkers (shown : String)
  | notAMapping (file : String)
  | malformed (file : String)
  | unreadableScalar

namespace ConfigError

def targetNames : String := String.intercalate ", " (Target.all.map Target.name)

def message : ConfigError → String
  | unknownKeys keys => "unknown configuration keys: " ++ String.intercalate ", " keys
  | keysNotText => "configuration keys must be texts"
  | unknownTarget shown => "unknown target '" ++ shown ++ "' (choose from " ++ targetNames ++ ")"
  | targetsNotListed => "targets must be listed"
  | workersNotNumber => "workers must be a number"
  | tooFewWorkers shown => "workers must be at least 1, got " ++ shown
  | notAMapping file => file ++ ": configuration must be a mapping"
  | malformed file => file ++ ": invalid YAML"
  | unreadableScalar => "a scalar stands for no number or date"

end ConfigError

structure Config where
  inputDir : Yaml.Datum := .text "."
  outputDir : Yaml.Datum := .text "generated"
  targets : List Target := [.csharp, .typescript]
  space : Yaml.Datum := .text "ViewModels"
  manifestFile : Yaml.Datum := .null
  pattern : Yaml.Datum := .text "*.py"
  workers : Yaml.Datum := .null
  deriving Inhabited

namespace Target

/-- The target with a name, in whatever case it is written. -/
def choose (shown : String) : Except ConfigError Target :=
  match ofName? (shown.map Char.toLower) with
  | some t => .ok t
  | none => .error (.unknownTarget shown)

end Target

namespace Config

open Yaml (Datum)

def keys : List String :=
  ["input_dir", "output_dir", "targets", "namespace", "manifest_file", "pattern", "workers"]

/-- What stands under a key. -/
def find? (es : List (Datum × Datum)) (key : String) : Option Datum :=
  (es.find? (fun e => e.1.sameKey (.text key))).map Prod.snd

/-- What may be gone through one by one: the items of a list, the keys of a mapping, and the
characters of a text. -/
def parts? : Datum → Option (List Datum)
  | .list ds => some ds
  | .mapping es => some (es.map Prod.fst)
  | .text s => some (s.toList.map (fun c => .text c.toString))
  | _ => none

def targetsOf (d : Datum) : Except ConfigError (List Target) :=
  match parts? d with
  | some ds => ds.mapM (fun d => Target.choose d.shown)
  | none => .error .targetsNotListed

/-- No workers at all stands for as many as there should be. -/
def checkWorkers (d : Datum) : Except ConfigError Unit :=
  match d with
  | .null => .ok ()
  | .bool _ | .int _ | .float _ =>
      if d.position?.any (·.lt (.ofInt 1)) then .error (.tooFewWorkers d.shown) else .ok ()
  | _ => .error .workersNotNumber

def unknownKeys (es : List (Datum × Datum)) : List Datum :=
  (es.map Prod.fst).filter (fun k => !keys.any (fun name => k.sameKey (.text name)))

def textKey? : Datum → Option String
  | .text s => some s
  | _ => none

def checkKeys (es : List (Datum × Datum)) : Except ConfigError Unit :=
  match unknownKeys es with
  | [] => .ok ()
  | unknown =>
      match unknown.mapM textKey? with
      | some names => .error (.unknownKeys (names.mergeSort (fun a b => decide (a ≤ b))))
      | none => .error .keysNotText

/-- Settings from a mapping, with the usual ones where it has none. -/
def ofEntries (es : List (Datum × Datum)) : Except ConfigError Config := do
  checkKeys es
  let usual : Config := {}
  let targets ←
    match find? es "targets" with
    | some d => targetsOf d
    | none => pure usual.targets
  let config : Config :=
    { inputDir := (find? es "input_dir").getD usual.inputDir
      outputDir := (find? es "output_dir").getD usual.outputDir
      targets := targets
      space := (find? es "namespace").getD usual.space
      manifestFile := (find? es "manifest_file").getD usual.manifestFile
      pattern := (find? es "pattern").getD usual.pattern
      workers := (find? es "workers").getD usual.workers }
  checkWorkers config.workers
  return config

/-- Settings from the text of a configuration file. -/
def ofText (file text : String) : Except ConfigError Config :=
  match Yaml.read (String.ofList (Text.unifyLineEnds text.toList)) with
  | .error .malformed => .error (.malformed file)
  | .error .scalar => .error .unreadableScalar
  | .ok .null => ofEntries []
  | .ok (.mapping es) => ofEntries es
  | .ok _ => .error (.notAMapping file)

/-- Replaces the settings that are given and not null; other keys count for nothing. -/
def override (c : Config) (es : List (Datum × Datum)) : Except ConfigError Config := do
  let given (key : String) : Option Datum := (find? es key).filter (fun d => !d.isNull)
  let targets ←
    match given "targets" with
    | some d => targetsOf d
    | none => pure c.targets
  let config : Config :=
    { inputDir := (given "input_dir").getD c.inputDir
      outputDir := (given "output_dir").getD c.outputDir
      targets := targets
      space := (given "namespace").getD c.space
      manifestFile := (given "manifest_file").getD c.manifestFile
      pattern := (given "pattern").getD c.pattern
      workers := (given "workers").getD c.workers }
  checkWorkers config.workers
  return config

def toValue (c : Config) : Value :=
  .mapping
    [("input_dir", c.inputDir.toValue), ("output_dir", c.outputDir.toValue),
      ("targets", .list (c.targets.map (fun t => .text t.name))), ("namespace", c.space.toValue),
      ("manifest_file", c.manifestFile.toValue), ("pattern", c.pattern.toValue),
      ("workers", c.workers.toValue)]

end Config

end ViewModel
