import ViewModel.CommandLine.Arguments
import ViewModel.Files.Templates
import ViewModel.Project

/-!
What the commands do to a tree of files: one builds classes, the other renders a page.
-/

namespace ViewModel.CommandLine

inductive Failure
  | config (e : ConfigError)
  | build (e : BuildFailure)
  | file (e : FileError)
  | layout (e : LayoutError)
  | snapshot (e : SnapshotError)
  | registry (e : RegistryError)
  | undefinedModule (e : UndefinedModule)

/-- What a command prints, what it reports as errors, and its exit code. -/
structure Outcome where
  exit : Nat
  output : String := ""
  errors : List String := []
  deriving Inhabited

abbrev Action := ExceptT Failure (StateM FileTree)

def lift {α : Type} (a : Except Failure α) : Action α :=
  match a with
  | .ok x => pure x
  | .error e => throw e

/-- The text of a file, its line ends unified. -/
def readText (path : String) : Action String := do
  let t : FileTree ← get
  let text ← lift ((t.read path).mapError .file)
  return String.ofList (Text.unifyLineEnds text.toList)

def configOf (path : Option String) : Action Config := do
  match path with
  | none | some "" => return {}
  | some path =>
      let text ← readText path
      lift ((Config.ofText path text).mapError .config)

def overrides (a : CompileArguments) : List (Yaml.Datum × Yaml.Datum) :=
  let texts (key : String) (s : Option String) : List (Yaml.Datum × Yaml.Datum) :=
    (s.map (fun s => (.text key, .text s))).toList
  texts "input_dir" a.inputDir ++ texts "output_dir" a.outputDir
    ++ (a.targets.map (fun ts => (.text "targets", .list (ts.map .text)))).toList
    ++ texts "namespace" a.space ++ texts "manifest_file" a.manifestFile
    ++ texts "pattern" a.pattern
    ++ (a.workers.map (fun n => (.text "workers", .int n))).toList

def reportText (r : BuildReport) : String :=
  let s := r.manifest.summary
  "Compiled " ++ natText s.classes ++ " classes (" ++ natText s.fields ++ " fields, " ++
    natText s.computed ++ " computed) into " ++ natText r.written.length ++ " files\n"

def compile (a : CompileArguments) : Action String := do
  let c ← configOf a.config
  let c ← lift ((c.override (overrides a)).mapError .config)
  let (r, t) := (Project.build c).run.run (← get)
  set t
  return reportText (← lift (r.mapError .build))

def render (a : RenderArguments) : Action String := do
  let layout ← lift ((Layout.ofText (← readText a.layout) (some a.layout)).mapError .layout)
  let snapshot ← lift ((Snapshot.ofText (← readText a.state)).mapError .snapshot)
  let t : FileTree ← get
  let registry ←
    lift ((Registry.ofDirectory t a.templates a.suffix a.engine).mapError .registry)
  let page ← lift ((registry.page layout snapshot .null).mapError .undefinedModule)
  match a.output with
  | none | some "" => return page
  | some path =>
      set (← lift ((t.write path page).mapError .file))
      return ""

namespace Failure

def message : Failure → String
  | config e => e.message
  | build e => e.message
  | file e => e.message
  | layout e => e.message
  | snapshot e => e.message
  | registry e => e.message
  | undefinedModule e => e.message

/-- Whether users are told of a failure. A setting of the wrong kind and a text that no reader takes
end the run instead. -/
def isReported : Failure → Bool
  | config e =>
      match e with
      | .keysNotText | .targetsNotListed | .workersNotNumber | .unreadableScalar => false
      | _ => true
  | build e =>
      match e with
      | .classes e => e.cause ≠ .nullCharacter
      | .file e => e.kind ≠ .nullCharacter
      | _ => false
  | layout e =>
      match e.fault with
      | .json .tooManyDigits => false
      | _ => true
  | snapshot e =>
      match e with
      | .json .tooManyDigits => false
      | _ => true
  | registry e => e ≠ .nullCharacter
  | file e => e.kind ≠ .nullCharacter
  | undefinedModule _ => true

end Failure

/-- Carries out a command. -/
def perform : Command → Action String
  | .compile a => compile a
  | .render a => render a

/-- Runs the arguments on a tree. A failure that is not reported ends the run as itself. -/
def run (arguments : List String) : StateM FileTree (Except Failure Outcome) := do
  match command arguments with
  | .error .wrong => return .ok { exit := 2 }
  | .error .informed => return .ok { exit := 0 }
  | .ok c =>
      match ← (perform c).run with
      | .ok output => return .ok { exit := 0, output }
      | .error e =>
          return if e.isReported then .ok { exit := 1, errors := [e.message] } else .error e

end ViewModel.CommandLine
