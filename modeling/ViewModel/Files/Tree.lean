import ViewModel.Text.Quoted
import ViewModel.Number.Text

/-!
Text files in directories. A path is followed a name at a time, from the root of the tree if it
starts with a slash and otherwise from the directory in which the work is done; `.` and empty names
stay, `..` goes up. What is read and written is the text itself, line ends included.
-/

namespace ViewModel

/-- The names from the root of a tree down to a file or a directory. -/
abbrev Place := List String

inductive FileError.Kind
  | missing
  | present
  | notDirectory
  | isDirectory
  | nullCharacter
  deriving DecidableEq

/-- What stands in the way of a file, and the path that was asked for. -/
structure FileError where
  kind : FileError.Kind
  path : String
  deriving DecidableEq

namespace FileError

/-- The number of an error; a path with a null character is refused without one. -/
def Kind.number? : Kind → Option Nat
  | missing => some 2
  | present => some 17
  | notDirectory => some 20
  | isDirectory => some 21
  | nullCharacter => none

def Kind.text : Kind → String
  | missing => "No such file or directory"
  | present => "File exists"
  | notDirectory => "Not a directory"
  | isDirectory => "Is a directory"
  | nullCharacter => "embedded null byte"

def message (e : FileError) : String :=
  match e.kind.number? with
  | some n => "[Errno " ++ natText n ++ "] " ++ e.kind.text ++ ": " ++ Text.quoted e.path
  | none => e.kind.text

end FileError

/-- A file stands at one place; directories without files are listed apart. Work is done in the
directory `home`. -/
structure FileTree where
  files : List (Place × String) := []
  directories : List Place := []
  home : Place := []
  deriving Inhabited

/-- A directory and a path that goes on from it. -/
def joinPath (directory path : String) : String :=
  if path.toList.head? = some '/' then path
  else if directory.isEmpty || directory.toList.getLast? = some '/' then directory ++ path
  else directory ++ "/" ++ path

/-- The names of a path. -/
def pathNames (path : String) : List String := (path.toList.splitOn '/').map String.ofList

def placeText (p : Place) : String := String.intercalate "/" p

/-- The last name of a path. -/
def baseName (path : String) : String := (pathNames path).getLast?.getD ""

/-- The path without its last name and without the slashes before that. -/
def directoryName (path : String) : String :=
  let upTo := path.toList.reverse.dropWhile (· ≠ '/')
  let trimmed := upTo.dropWhile (· = '/')
  String.ofList (if trimmed.isEmpty then upTo.reverse else trimmed.reverse)

namespace FileTree

/-- Sets the text at a place. -/
def putText (files : List (Place × String)) (p : Place) (text : String) : List (Place × String) :=
  match files with
  | [] => [(p, text)]
  | (q, t) :: rest => if q = p then (p, text) :: rest else (q, t) :: putText rest p text

def put (t : FileTree) (p : Place) (text : String) : FileTree :=
  { t with files := putText t.files p text }

def file? (t : FileTree) (p : Place) : Option String :=
  (t.files.find? (fun f => f.1 = p)).map Prod.snd

@[simp] theorem file?_put_self (t : FileTree) (p : Place) (text : String) :
    (t.put p text).file? p = some text := by
  obtain ⟨files, directories, home⟩ := t
  simp only [put, file?]
  induction files with
  | nil => simp [putText]
  | cons f rest ih =>
    rw [putText]
    split
    · simp
    · next h => simpa [List.find?_cons, h] using ih

theorem file?_put_of_ne (t : FileTree) {p q : Place} (text : String) (h : q ≠ p) :
    (t.put p text).file? q = t.file? q := by
  obtain ⟨files, directories, home⟩ := t
  simp only [put, file?]
  induction files with
  | nil => simp [putText, h.symm]
  | cons f rest ih =>
    rw [putText]
    split
    · next hf => simp [hf, h.symm]
    · next hf =>
      by_cases hq : f.1 = q
      · simp [hq]
      · simpa [List.find?_cons, hq] using ih

def isFile (t : FileTree) (p : Place) : Bool := (t.file? p).isSome

/-- All places of files and of directories that are known by themselves. -/
def places (t : FileTree) : List Place := t.files.map Prod.fst ++ t.home :: t.directories

/-- The root is a directory, and so is what something lies in. -/
def isDirectory (t : FileTree) (p : Place) : Bool :=
  p.isEmpty || (t.home :: t.directories).contains p ||
    t.places.any (fun q => p.isPrefixOf q && p.length < q.length)

def contains (t : FileTree) (p : Place) : Bool := t.isFile p || t.isDirectory p

/-- Whether the way to a place leads through a file. -/
def isThroughFile (t : FileTree) (p : Place) : Bool :=
  t.files.any (fun f => f.1.isPrefixOf p && f.1.length < p.length)

/-- Goes on from a place by names. Only a directory has a way up, and that of the root stays. -/
def follow (t : FileTree) (here : Place) : List String → Option Place
  | [] => some here
  | name :: rest =>
      if name.isEmpty || name = "." then t.follow here rest
      else if name = ".." then
        if t.isDirectory here then t.follow here.dropLast rest else none
      else t.follow (here ++ [name]) rest

/-- Where a path starts. -/
def start (t : FileTree) (path : String) : Place :=
  if path.toList.head? = some '/' then [] else t.home

/-- Where a path leads; nowhere if it is empty, goes up from no directory or has a null
character. -/
def locate? (t : FileTree) (path : String) : Option Place :=
  if path.isEmpty || path.toList.contains '\x00' then none
  else t.follow (t.start path) (pathNames path)

/-- A path to a place. -/
def pathOf (t : FileTree) (p : Place) : String :=
  if t.home.isPrefixOf p then placeText (p.drop t.home.length) else "/" ++ placeText p

def endsWithSlash (path : String) : Bool := path.toList.getLast? = some '/'

/-- Why a path leads nowhere. -/
def lost (path : String) : FileError :=
  ⟨if path.toList.contains '\x00' then .nullCharacter else .missing, path⟩

/-- Why there is no file at a place. -/
def absence (t : FileTree) (p : Place) : FileError.Kind :=
  if t.isDirectory p then .isDirectory
  else if t.isThroughFile p then .notDirectory
  else .missing

/-- The text of a file. -/
def read (t : FileTree) (path : String) : Except FileError String :=
  match t.locate? path with
  | none => .error (lost path)
  | some p =>
      match t.file? p with
      | some text => if endsWithSlash path then .error ⟨.notDirectory, path⟩ else .ok text
      | none => .error ⟨t.absence p, path⟩

/-- Where a file may be written: in a directory, and not in the place of one. -/
def writable (t : FileTree) (path : String) : Except FileError Place :=
  match t.locate? path with
  | none => .error (lost path)
  | some p =>
      if t.isFile p then
        if endsWithSlash path then .error ⟨.notDirectory, path⟩ else .ok p
      else if t.isDirectory p then .error ⟨.isDirectory, path⟩
      else if !t.isDirectory p.dropLast then .error ⟨t.absence p, path⟩
      else if endsWithSlash path then .error ⟨.isDirectory, path⟩
      else .ok p

def write (t : FileTree) (path text : String) : Except FileError FileTree :=
  (t.writable path).map (fun p => t.put p text)

/-- Goes on from a place by names and makes the directories that are missing on the way. `passed`
are the names before, for messages. -/
def makeFrom (t : FileTree) (here : Place) (passed : List String) :
    List String → Except FileError FileTree
  | [] => .ok t
  | name :: rest =>
      let passed := passed ++ [name]
      if name.isEmpty || name = "." then t.makeFrom here passed rest
      else if name = ".." then t.makeFrom here.dropLast passed rest
      else
        let next := here ++ [name]
        if t.isDirectory next then t.makeFrom next passed rest
        else if t.isFile next then
          match rest.dropWhile (·.isEmpty) with
          | inside :: _ =>
              .error ⟨.notDirectory,
                placeText (passed ++ rest.takeWhile (·.isEmpty) ++ [inside])⟩
          | [] => .error ⟨.present, placeText (passed ++ rest)⟩
        else FileTree.makeFrom { t with directories := t.directories ++ [next] } next passed rest

/-- Makes a directory and those on the way to it, where they are missing. -/
def makeDirectories (t : FileTree) (path : String) : Except FileError FileTree :=
  if path.isEmpty || path.toList.contains '\x00' then .error (lost path)
  else t.makeFrom (t.start path) [] (pathNames path)

/-- The order of a walk: the files of a directory by name, then its directories by name. -/
def walkLe : Place → Place → Bool
  | [a], [b] => decide (a ≤ b)
  | [_], _ => true
  | _, [_] => false
  | a :: p, b :: q => if a = b then walkLe p q else decide (a ≤ b)
  | [], _ => true
  | _, [] => false

/-- The files below a place, with the ways to them from there, in the order of a walk. -/
def walk (t : FileTree) (p : Place) : List (Place × String) :=
  let below := t.files.filter (fun f => p.isPrefixOf f.1 && p.length < f.1.length)
  (below.map (fun f => (f.1.drop p.length, f.2))).mergeSort (fun a b => walkLe a.1 b.1)

/-- A tree of files that are written one after another. -/
def ofFiles (files : List (String × String)) : FileTree :=
  files.foldl (fun t f =>
    match t.locate? f.1 with
    | some p => t.put p f.2
    | none => t) {}

/-- The files that are new or have another text than before, by path. -/
def changes (before after : FileTree) : List (String × String) :=
  let changed := after.files.filter (fun f => before.file? f.1 ≠ some f.2)
  (changed.map (fun f => (after.pathOf f.1, f.2))).mergeSort (fun a b => decide (a.1 ≤ b.1))

end FileTree

end ViewModel
