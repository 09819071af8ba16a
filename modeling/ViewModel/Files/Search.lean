import ViewModel.Files.Tree
import ViewModel.Files.Wildcard

/-!
Searching a tree with a pattern for paths. Each name of the pattern may hold wildcards, and `**`
stands for any number of directories. A wildcard does not stand for the point at the start of a
hidden name.
-/

namespace ViewModel.FileTree

def hasWildcard (name : String) : Bool := name.toList.any (· ∈ ['*', '?', '['])

def isHidden (name : String) : Bool := name.toList.head? = some '.'

/-- The place of a directory that a search has come to; the empty path is where the work is done. -/
def reached? (t : FileTree) (directory : String) : Option Place :=
  if directory.isEmpty then some t.home else t.locate? directory

/-- The ways from a place to all that lies below it. -/
def below (t : FileTree) (p : Place) : List Place :=
  let ways := (t.places.filter (p.isPrefixOf ·)).map (·.drop p.length)
  (ways.flatMap (fun way => (List.range way.length).map (fun n => way.take (n + 1)))).eraseDups

/-- What a name of a pattern stands for in a directory. Where more names follow, wildcards stand
for directories only. -/
def expand (t : FileTree) (isLast : Bool) (name directory : String) : List String :=
  match t.reached? directory with
  | none => if name = "**" then [""] else []
  | some p =>
      let fits (way : Place) : Bool := isLast || t.isDirectory (p ++ way)
      if name = "**" then
        "" :: ((t.below p).filter (fun way => !way.any isHidden && fits way)).map placeText
      else if hasWildcard name then
        let names := ((t.below p).filter (fun way => way.length = 1 && fits way)).flatten
        names.filter (fun n => (isHidden name || !isHidden n) && nameMatches name n)
      else if name.isEmpty then
        if t.isDirectory p then [""] else []
      else
        match t.locate? (joinPath directory name) with
        | some q => if t.contains q then [name] else []
        | none => []

/-- The paths that the names of a pattern lead to from some directories. -/
def searchFrom (t : FileTree) (directories : List String) : List String → List String
  | [] => directories
  | name :: rest =>
      t.searchFrom
        (directories.flatMap (fun d => (t.expand rest.isEmpty name d).map (joinPath d))) rest

/-- A pattern as a path without wildcards and the names that follow it. Slashes at the end of the
path are left out, unless it has no other characters. -/
def splitPattern (pattern : String) : String × List String :=
  let names := pathNames pattern
  let fixed := names.takeWhile (!hasWildcard ·)
  let rest := names.drop fixed.length
  let upTo := String.join (fixed.map (· ++ "/"))
  let trimmed := upTo.toList.reverse.dropWhile (· = '/')
  (if trimmed.isEmpty then upTo else String.ofList trimmed.reverse,
    rest.dropLast.filter (!·.isEmpty) ++ rest.getLast?.toList)

/-- The paths of a pattern, one for every way to match it. -/
def search (t : FileTree) (pattern : String) : List String :=
  if (pathNames pattern).any hasWildcard then
    let (start, names) := splitPattern pattern
    t.searchFrom [start] names
  else [pattern]

def isFileAt (t : FileTree) (path : String) : Bool :=
  !endsWithSlash path && (t.locate? path).any t.isFile

/-- The files of a pattern in a directory and in those below it, by path. Files whose names start
with two underscores are left out. -/
def findFiles (t : FileTree) (directory pattern : String) : List String :=
  let paths := t.search (joinPath (joinPath directory "**") pattern)
  let found := paths.filter (fun p =>
    t.isFileAt p && !"__".toList.isPrefixOf (baseName p).toList)
  found.mergeSort (fun a b => decide (a ≤ b))

end ViewModel.FileTree
