import ViewModel.Files.Tree
import ViewModel.Page

/-!
Registries from directories: every file whose name has the suffix is a template, named by the way
to it from the directory.
-/

namespace ViewModel.Registry

/-- The way to a template without the suffix; an empty suffix leaves nothing of it. -/
def templateName (suffix : String) (way : Place) : String :=
  let cs := (placeText way).toList
  if suffix.isEmpty then "" else String.ofList (cs.take (cs.length - suffix.length))

def hasSuffix (suffix : String) (way : Place) : Bool :=
  way.getLast?.any (fun name => suffix.toList.isSuffixOf name.toList)

/-- The templates of a directory, in the order of a walk; a directory that is none has none. -/
def ofDirectory (t : FileTree) (directory suffix : String) (engine : Engine) :
    Except RegistryError Registry :=
  match t.locate? directory with
  | none => .ok { engine }
  | some p =>
      ((t.walk p).filter (fun f => hasSuffix suffix f.1)).foldlM (fun r f =>
        r.add (templateName suffix f.1) f.2 (some (joinPath directory (placeText f.1)))) { engine }

end ViewModel.Registry
