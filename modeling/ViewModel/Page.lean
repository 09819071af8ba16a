import ViewModel.Layout.Plan
import ViewModel.Template.Program
import ViewModel.Template.Read

/-!
Pages: a registry of templates by name, and the text of all modules of a layout.
-/

namespace ViewModel

/-- Two ways to render a template: walk its nodes, or run its program. -/
inductive Engine
  | interpreted
  | compiled
  deriving DecidableEq, Inhabited

namespace Engine

def name : Engine → String
  | interpreted => "interpreted"
  | compiled => "compiled"

def ofName? (s : String) : Option Engine := [interpreted, compiled].find? (fun e => e.name == s)

theorem ofName?_name (e : Engine) : ofName? e.name = some e := by
  cases e <;> decide

end Engine

/-- Why a template is not added: its text is refused, or the name that its program would have. -/
inductive RegistryError
  | template (e : TemplateError)
  | nullCharacter
  deriving DecidableEq

def RegistryError.message : RegistryError → String
  | template e => e.message
  | nullCharacter => "the name of a template holds a null character"

/-- Templates by name; with the compiling engine also the program of each. -/
structure Registry where
  engine : Engine
  templates : List (String × Template) := []
  programs : List (String × Program) := []
  deriving Inhabited

/-- Work on a registry. What was set before a failure stays. -/
abbrev Filling := ExceptT RegistryError (StateM Registry)

/-- How the work ends on a registry, and what it leaves. -/
def Filling.outcome {α : Type} (w : Filling α) (r : Registry) : Except RegistryError α × Registry :=
  Id.run (w.run.run r)

namespace Registry

def contains (r : Registry) (name : String) : Bool := (Entries.find? r.templates name).isSome

def names (r : Registry) : List String :=
  (r.templates.map Prod.fst).mergeSort (fun a b => decide (a ≤ b))

def get? (r : Registry) (name : String) : Option Template := Entries.find? r.templates name

def setTemplate (r : Registry) (name : String) (t : Template) : Registry :=
  { r with templates := Entries.insert r.templates name t }

def setProgram (r : Registry) (name : String) (p : Program) : Registry :=
  { r with programs := Entries.insert r.programs name p }

/-- Sets a template and then, where the engine runs programs, its program. -/
def set (name : String) (t : Template) : Filling Unit := do
  modify (·.setTemplate name t)
  let r : Registry ← get
  if r.engine = .compiled then
    match Program.compile? t with
    | some p => modify (·.setProgram name p)
    | none => throw .nullCharacter

/-- What names a template in messages: its own name, if no source is given. -/
def shownSource (name : String) (source : Option String) : String :=
  match source with
  | none | some "" => name
  | some s => s

/-- Reads a template and sets it. -/
def adding (name text : String) (source : Option String) : Filling Unit := do
  match Template.read text (some (shownSource name source)) with
  | .ok t => set name t
  | .error e => throw (.template e)

/-- The registry with one more template, if nothing stands in the way. -/
def add (r : Registry) (name text : String) (source : Option String) :
    Except RegistryError Registry :=
  let (ending, r') := (adding name text source).outcome r
  ending.map (fun _ => r')

/-- The text of a template on some data; none if there is no such template. -/
def render? (r : Registry) (name : String) (data : Value) : Option String :=
  match r.engine with
  | .interpreted => (Entries.find? r.templates name).map (·.render data)
  | .compiled => (Entries.find? r.programs name).bind (·.run data)

/-- The text of one module outside any layout. -/
def renderModule? (r : Registry) (name : String) (c : RenderContext) : Option String :=
  r.render? name c.scope

/-- The text of a page. -/
def page (r : Registry) (l : Layout) (snapshot : Snapshot) (module : Value) :
    Except UndefinedModule String := do
  let units ← l.units r.contains snapshot module
  let parts ← units.mapM (fun u =>
    match r.renderModule? u.name u.context with
    | some s => .ok s
    | none => .error ⟨u.name⟩)
  return String.join parts

end Registry

end ViewModel
