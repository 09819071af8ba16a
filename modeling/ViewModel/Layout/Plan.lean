import ViewModel.Layout.Node
import ViewModel.Snapshot

/-!
From a layout and a snapshot to the modules to render, each with what it sees.
-/

namespace ViewModel

/-- A module to render and what it sees. -/
structure RenderUnit where
  name : String
  context : RenderContext
  deriving Inhabited

/-- A layout names a module that is not there. -/
structure UndefinedModule where
  name : String
  deriving DecidableEq

def UndefinedModule.message (e : UndefinedModule) : String :=
  "Layout references undefined module '" ++ e.name ++ "'"

namespace LayoutNode

/-- Whether every condition of a node holds. -/
def passes (n : LayoutNode) (c : RenderContext) : Bool :=
  n.ifAll.all (fun p => (c.resolve p).isTruthy) && !n.unlessAny.any (fun p => (c.resolve p).isTruthy)

/-- What a node sees once its own choice of data is made. -/
def imported (n : LayoutNode) (c : RenderContext) : RenderContext :=
  match n.importPath with
  | some p => c.withModule (c.resolve p)
  | none => c

/-- What a node sees each time it is shown: once, or once for each item of a sequence. -/
def instances (n : LayoutNode) (c : RenderContext) : List RenderContext :=
  match n.each with
  | none => [c]
  | some p => (c.resolve p).items.map c.withModule

mutual

/-- The modules that a node stands for; `known` says which names may be rendered. -/
def units (known : String → Bool) (c : RenderContext) :
    LayoutNode → Except UndefinedModule (List RenderUnit)
  | ⟨name, ifAll, unlessAny, each, importPath, layout⟩ =>
      let n : LayoutNode := ⟨name, ifAll, unlessAny, each, importPath, []⟩
      if n.passes c then do
        let parts ← (n.instances c).mapM (fun c =>
          let c := n.imported c
          if layout.isEmpty then
            if known name then .ok [⟨name, c⟩] else .error ⟨name⟩
          else unitsOf known c layout)
        return parts.flatten
      else .ok []

def unitsOf (known : String → Bool) (c : RenderContext) :
    List LayoutNode → Except UndefinedModule (List RenderUnit)
  | [] => .ok []
  | n :: rest => do
      let first ← units known c n
      return first ++ (← unitsOf known c rest)

end

end LayoutNode

namespace Layout

/-- The plan of a page. -/
def units (l : Layout) (known : String → Bool) (snapshot : Snapshot) (module : Value) :
    Except UndefinedModule (List RenderUnit) :=
  LayoutNode.unitsOf known ⟨snapshot, module⟩ l

/-- Checks every module that could be rendered, whatever the state. -/
def check (l : Layout) (known : String → Bool) : Except UndefinedModule Unit :=
  (LayoutNode.leavesOf l).forM (fun name => if known name then .ok () else .error ⟨name⟩)

end Layout

end ViewModel
