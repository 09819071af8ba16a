import ViewModel.Json.Reader

/-!
Layouts: trees of module descriptors, with conditions, repetition and a choice of data.
-/

namespace ViewModel

/-- A module with the paths that must hold and must not hold, the path of the sequence it is
repeated for, the path of the value it stands for, and the modules inside. -/
structure LayoutNode where
  name : String
  ifAll : List String := []
  unlessAny : List String := []
  each : Option String := none
  importPath : Option String := none
  layout : List LayoutNode := []
  deriving Inhabited

inductive LayoutError.Cause
  | notAnObject
  | unknownKeys (keys : List String)
  | name
  | layout
  | paths (key : String)
  | path (key : String)
  deriving DecidableEq

def LayoutError.Cause.detail : LayoutError.Cause → String
  | notAnObject => "module descriptor must be an object"
  | unknownKeys keys => "unknown keys " ++ (Value.list (keys.map .text)).inspect
  | name => "'name' is required and must be a string"
  | layout => "'layout' must be a list"
  | paths key => "'" ++ key ++ "' must be a list of paths"
  | path key => "'" ++ key ++ "' must be a path string"

/-- Why a document is not a layout; `at` leads to a node by the positions on every level. -/
inductive LayoutError.Fault
  | json (e : JsonError)
  | notAList
  | node (position : List Nat) (cause : LayoutError.Cause)

structure LayoutError where
  fault : LayoutError.Fault
  source : Option String

namespace LayoutError

/-- The place of a node in a document. -/
def place : List Nat → String
  | [] => ""
  | [i] => "[" ++ natText i ++ "]"
  | i :: rest => "[" ++ natText i ++ "].layout" ++ place rest

def Fault.detail : Fault → String
  | json (.malformed reason line column _) =>
      "invalid JSON at line " ++ natText line ++ " column " ++ natText column ++ ": "
        ++ reason.text
  | json e => e.message
  | notAList => "layout document must be a list of module descriptors"
  | node position cause => place position ++ ": " ++ cause.detail

def message (e : LayoutError) : String :=
  (match e.source with
    | none | some "" => ""
    | some s => s ++ ": ") ++ e.fault.detail

end LayoutError

namespace LayoutNode

def keys : List String := ["name", "if", "unless", "each", "import", "layout"]

/-- A list of paths, none of them empty. -/
def paths (es : List (String × Value)) (key : String) :
    Except LayoutError.Cause (List String) :=
  match Entries.find? es key with
  | none => .ok []
  | some (.list vs) =>
      vs.mapM (fun v =>
        match v with
        | .text s => if s = "" then .error (.paths key) else .ok s
        | _ => .error (.paths key))
  | some _ => .error (.paths key)

/-- A path that is not empty. -/
def path? (es : List (String × Value)) (key : String) :
    Except LayoutError.Cause (Option String) :=
  match Entries.find? es key with
  | none => .ok none
  | some (.text s) => if s = "" then .error (.path key) else .ok (some s)
  | some _ => .error (.path key)

def nameOf (es : List (String × Value)) : Except LayoutError.Cause String :=
  match Entries.find? es "name" with
  | some (.text s) => if s = "" then .error .name else .ok s
  | _ => .error .name

/-- Keys that no descriptor has, sorted. -/
def unknownKeys (es : List (String × Value)) : List String :=
  ((es.map Prod.fst).filter (fun k => !keys.contains k)).mergeSort (fun a b => decide (a ≤ b))

/-- Checks that come before anything inside a descriptor is looked at. -/
def checkKeys (es : List (String × Value)) : Except LayoutError.Cause Unit :=
  match unknownKeys es with
  | [] => .ok ()
  | unknown => .error (.unknownKeys unknown)

/-- The descriptor without the modules inside. -/
def shallow (es : List (String × Value)) : Except LayoutError.Cause LayoutNode := do
  checkKeys es
  let name ← nameOf es
  match Entries.find? es "layout" with
  | none | some (.list _) => pure ()
  | some _ => throw .layout
  let ifAll ← paths es "if"
  let unlessAny ← paths es "unless"
  let each ← path? es "each"
  return { name, ifAll, unlessAny, each, importPath := ← path? es "import" }

mutual

/-- The node that a value describes; `position` leads to it. -/
def ofValue (position : List Nat) : Value → Except LayoutError.Fault LayoutNode
  | .mapping es => do
      let node ← (shallow es).mapError (.node position)
      return { node with layout := ← ofEntries position es }
  | _ => .error (.node position .notAnObject)

/-- The nodes inside a descriptor. -/
def ofEntries (position : List Nat) :
    List (String × Value) → Except LayoutError.Fault (List LayoutNode)
  | [] => .ok []
  | (key, v) :: rest =>
      if key = "layout" then ofItems position v else ofEntries position rest

def ofItems (position : List Nat) : Value → Except LayoutError.Fault (List LayoutNode)
  | .list vs => ofList position 0 vs
  | _ => .ok []

/-- The nodes of a list, from position `i` on. -/
def ofList (position : List Nat) (i : Nat) : List Value → Except LayoutError.Fault (List LayoutNode)
  | [] => .ok []
  | v :: rest => do
      let node ← ofValue (position ++ [i]) v
      return node :: (← ofList position (i + 1) rest)

end

mutual

/-- The descriptor of a node; empty parts are left out. -/
def toValue : LayoutNode → Value
  | ⟨name, ifAll, unlessAny, each, importPath, layout⟩ =>
      .mapping ([("name", .text name)]
        ++ (if ifAll.isEmpty then [] else [("if", .list (ifAll.map .text))])
        ++ (if unlessAny.isEmpty then [] else [("unless", .list (unlessAny.map .text))])
        ++ (each.map (fun p => ("each", .text p))).toList
        ++ (importPath.map (fun p => ("import", .text p))).toList
        ++ (if layout.isEmpty then [] else [("layout", .list (toValues layout))]))

def toValues : List LayoutNode → List Value
  | [] => []
  | n :: rest => toValue n :: toValues rest

end

mutual

/-- The names of the modules that have none inside, in order. -/
def leaves : LayoutNode → List String
  | ⟨name, _, _, _, _, []⟩ => [name]
  | ⟨_, _, _, _, _, n :: rest⟩ => n.leaves ++ leavesOf rest

def leavesOf : List LayoutNode → List String
  | [] => []
  | n :: rest => leaves n ++ leavesOf rest

end

end LayoutNode

/-- The modules of a page, in order. -/
abbrev Layout := List LayoutNode

namespace Layout

def ofValue (v : Value) (source : Option String) : Except LayoutError Layout :=
  match v with
  | .list vs => (LayoutNode.ofList [] 0 vs).mapError (fun fault => ⟨fault, source⟩)
  | _ => .error ⟨.notAList, source⟩

def ofText (s : String) (source : Option String) : Except LayoutError Layout :=
  match Json.read s with
  | .ok v => ofValue v source
  | .error e => .error ⟨.json e, source⟩

def toValue (l : Layout) : Value := .list (LayoutNode.toValues l)

end Layout

end ViewModel
