import ViewModel.Accessor.Compile
import ViewModel.Build.Resolve
import ViewModel.Config
import ViewModel.Files.Search
import ViewModel.Model.Stored

/-!
A whole build: the files of the input directory are read, their classes resolved and compiled, and
one file is written for each class and target, and the manifest where the settings name a file for
it. Nothing is written unless all classes have been compiled. The files are read by workers, of
which only the number matters here: what they read is put together in the order of the files.
-/

namespace ViewModel

/-- Why a build has no result. One that waits for workers that never start does not end at all. -/
inductive BuildFailure
  | classes (e : BuildError)
  | file (e : FileError)
  | print (e : PrintError)
  | settingNotText
  | manifestFileNotText
  | workersNotNumber
  | noWorkers
  | workersNeverStart

def BuildFailure.message : BuildFailure → String
  | classes e => e.message
  | file e => e.message
  | print e => e.message
  | settingNotText => "a directory or a pattern must be a text"
  | manifestFileNotText => "the name of the manifest file must be a text"
  | workersNotNumber => "workers must be a number"
  | noWorkers => "workers must be more than 0"
  | workersNeverStart => "no worker ever starts"

/-- What a build has read, and the files it has written, in order. -/
structure BuildReport where
  manifest : Manifest
  written : List String

/-- Work on a tree of files. What was written before a failure stays. -/
abbrev Work := ExceptT BuildFailure (StateM FileTree)

namespace Work

def lift {α : Type} (a : Except BuildFailure α) : Work α :=
  match a with
  | .ok x => pure x
  | .error e => throw e

def save (path text : String) : Work Unit := do
  let t : FileTree ← get
  set (← lift ((t.write path text).mapError .file))

def makeDirectories (path : String) : Work Unit := do
  let t : FileTree ← get
  set (← lift ((t.makeDirectories path).mapError .file))

end Work

namespace Project

open Yaml (Datum)

def textOf : Datum → Except BuildFailure String
  | .text s => .ok s
  | _ => .error .settingNotText

/-- Whether workers can be set to some jobs. Their number is compared with how many have started,
and what is no number at all compares with nothing, so that then no worker ever starts. -/
def checkWorkers (workers : Datum) (jobs : Nat) : Except BuildFailure Unit :=
  match workers with
  | .null => .ok ()
  | .bool _ | .int _ | .float _ =>
      match workers.position? with
      | some p => if (Position.ofInt 0).lt p then .ok () else .error .noWorkers
      | none => if jobs = 0 then .ok () else .error .workersNeverStart
  | _ => .error .workersNotNumber

/-- The declarations of the files, in their order. -/
def declarations (t : FileTree) (paths : List String) :
    Except BuildFailure (List Source.Declaration) := do
  let all ← paths.mapM (fun path => do
    let text ← (t.read path).mapError .file
    (Source.Declaration.ofSource path text).mapError .classes)
  return all.flatten

/-- The compiled manifest of the files that the settings ask for. -/
def manifest (t : FileTree) (c : Config) : Except BuildFailure Manifest := do
  let directory ← textOf c.inputDir
  let pattern ← textOf c.pattern
  let paths := t.findFiles directory pattern
  checkWorkers c.workers paths.length
  let ds ← declarations t paths
  let m ← (Resolve.manifest ds).mapError .classes
  m.compile.mapError .classes

/-- Where the files of a target go: with several targets each has a directory of its own. -/
def targetDirectory (c : Config) (g : Target) : Except BuildFailure String := do
  let directory ← textOf c.outputDir
  return if 1 < c.targets.length then joinPath directory g.name else directory

/-- Writes the file of one class. -/
def saveClass (c : Config) (g : Target) (d : ClassDecl) : Work String := do
  let text ← Work.lift ((g.classFile c.space.shown d).mapError .print)
  let directory ← Work.lift (targetDirectory c g)
  Work.makeDirectories directory
  let path := joinPath directory (g.fileName d)
  Work.save path text
  return path

/-- Writes the file that makes a package of the classes; its directory must be there. -/
def savePackage (c : Config) (m : Manifest) : Work String := do
  let path := joinPath (← Work.lift (targetDirectory c .python)) "__init__.py"
  Work.save path (ClassFile.pythonPackage m)
  return path

/-- Writes the files of one target. -/
def saveTarget (c : Config) (m : Manifest) (g : Target) : Work (List String) := do
  if 1 < c.targets.length then discard (Work.lift (targetDirectory c g))
  let files ← m.classes.mapM (saveClass c g)
  match g with
  | .python => return files ++ [← savePackage c m]
  | _ => return files

/-- A manifest is stored in the form that the name of its file tells. -/
def storageOf (path : String) : Storage :=
  let endsIn (suffix : String) := suffix.toList.isSuffixOf path.toList
  if endsIn ".yaml" || endsIn ".yml" then .yaml else .json

/-- Whether a setting is given: nothing, zero and what is empty are not. -/
def isGiven : Datum → Bool
  | .null => false
  | .bool b => b
  | .int n => n ≠ 0
  | .float x => x.position? ≠ some (.ofInt 0)
  | .text s => !s.isEmpty
  | .time _ => true
  | .list ds => !ds.isEmpty
  | .mapping es => !es.isEmpty

/-- Writes the manifest where the settings name a file for it. -/
def saveManifest (c : Config) (m : Manifest) : Work (List String) := do
  if !isGiven c.manifestFile then return []
  match c.manifestFile with
  | .text path =>
      let directory := directoryName path
      if !directory.isEmpty then Work.makeDirectories directory
      Work.save path ((storageOf path).write m)
      return [path]
  | _ => throw .manifestFileNotText

/-- Runs the build that the settings describe. -/
def build (c : Config) : Work BuildReport := do
  let m ← Work.lift (manifest (← get) c)
  let files ← c.targets.mapM (saveTarget c m)
  let stored ← saveManifest c m
  return ⟨m, files.flatten ++ stored⟩

end Project

end ViewModel
