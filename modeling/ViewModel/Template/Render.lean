import ViewModel.Template.Node
import ViewModel.Value.Display
import ViewModel.Value.Path

/-!
Rendering a template by walking its nodes. Scopes are listed innermost first; a path starts in the
first scope that defines its head, or with `this` in the innermost one.
-/

namespace ViewModel

namespace Template

/-- Whether a scope defines a name. -/
def defines (scope : Value) (name : String) : Bool :=
  match scope with
  | .mapping es => (Entries.find? es name).isSome
  | .record _ _ attributes =>
      name.toList.head? ≠ some '_' && (Entries.find? attributes name).isSome
  | _ => false

/-- The value of a name in the innermost scope that defines it. -/
def lookupHead : List Value → String → Value
  | [], _ => .null
  | scope :: outer, name =>
      if defines scope name then scope.segment name else lookupHead outer name

/-- The value that a path leads to. -/
def lookup (scopes : List Value) : List String → Value
  | [] => .null
  | head :: rest =>
      (if head = "this" then scopes.headD .null else lookupHead scopes head).follow rest

mutual

/-- The text of a node. -/
def renderNode (scopes : List Value) : Node → String
  | .text s => s
  | .slot path _ => Markup.escape (lookup scopes path).display
  | .block .whenTrue path _ body =>
      if (lookup scopes path).isTruthy then renderNodes scopes body else ""
  | .block .whenFalse path _ body =>
      if (lookup scopes path).isTruthy then "" else renderNodes scopes body
  | .block .each path _ body =>
      String.join ((lookup scopes path).items.map (fun item => renderNodes (item :: scopes) body))

def renderNodes (scopes : List Value) : List Node → String
  | [] => ""
  | n :: rest => renderNode scopes n ++ renderNodes scopes rest

end

/-- The text of a template on some data. -/
def render (t : Template) (data : Value) : String := renderNodes [data] t.nodes

end Template

end ViewModel
