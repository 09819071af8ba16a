import ViewModel.CommandLine.Run

/-!
The program: it reads the text files below the current directory, carries out the command, and
writes the files that are new or have changed.
-/

namespace ViewModel

/-- Adds the text files below a place to a tree. -/
partial def FileTree.load (t : FileTree) (p : Place) : IO FileTree := do
  let here ← IO.FS.realPath ("/" ++ placeText p)
  (← here.readDir).foldlM (fun t entry => do
    let place := p ++ [entry.fileName]
    if ← entry.path.isDir then t.load place
    else
      try return t.put place (← IO.FS.readFile entry.path)
      catch _ => return t) t

/-- Writes the files that have changed. -/
def FileTree.store (before after : FileTree) : IO Unit :=
  (before.changes after).forM (fun f => do
    let directory := directoryName f.1
    if !directory.isEmpty then IO.FS.createDirAll directory
    IO.FS.writeFile f.1 f.2)

end ViewModel

open ViewModel

def main (arguments : List String) : IO UInt32 := do
  let here ← IO.FS.realPath "."
  let home := (pathNames here.toString).filter (!·.isEmpty)
  let before ← FileTree.load { home } home
  let (result, after) := (CommandLine.run arguments).run before
  before.store after
  match result with
  | .ok o =>
      IO.print o.output
      o.errors.forM (fun e => IO.eprintln ("ERROR: " ++ e))
      return o.exit.toUInt32
  | .error e =>
      IO.eprintln e.message
      return 1
