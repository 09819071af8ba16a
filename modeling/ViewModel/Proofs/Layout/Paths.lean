import ViewModel.Proofs.Layout.Plan
import ViewModel.Proofs.Template.Tag
import ViewModel.Template.Render

/-!
Paths mean the same in layouts and in templates, so a node with a condition or a repetition is
shown in the same turns as the block that says the same.
-/

namespace ViewModel

variable {raw : String} {segments : List String}

namespace Template

theorem dotted_of_path (h : Template.path raw.toList = .ok segments) : dotted raw = segments := by
  simp only [Template.path] at h
  split at h
  · cases h
  · split at h
    · cases h
    · exact Except.ok.inj h

theorem ne_empty_of_path (h : Template.path raw.toList = .ok segments) : raw ≠ "" := by
  rintro rfl
  obtain ⟨hpath, htext⟩ := path_eq_ok.mp h
  exact hpath.ne_nil htext.symm

/-- In a single mapping, a name that is not defined is null. -/
theorem lookupHead_mapping (es : List (String × Value)) (name : String) :
    lookupHead [.mapping es] name = (Value.mapping es).segment name := by
  rw [lookupHead, defines]
  split
  · rfl
  next hnone =>
    have hnone : Entries.find? es name = none := by simpa using hnone
    simp [lookupHead, Value.segment, hnone]

theorem lookup_eq_resolve (c : RenderContext) (hpath : Template.path raw.toList = .ok segments)
    (hthis : segments.head? ≠ some "this") : c.resolve raw = lookup [c.scope] segments := by
  have hdotted := dotted_of_path hpath
  rw [RenderContext.resolve, Value.resolve, if_neg (ne_empty_of_path hpath), hdotted]
  cases segments with
  | nil => exact absurd (path_eq_ok.mp hpath).1 id
  | cons head rest =>
    have hhead : head ≠ "this" := fun h => hthis (congrArg some h)
    rw [lookup, if_neg hhead, RenderContext.scope, lookupHead_mapping]
    rfl

end Template

/-- The turns in which a block shows its body on the value of its path, each with the scope that
it adds, if it adds one. -/
def Helper.turns (v : Value) : Helper → List (Option Value)
  | .whenTrue => if v.isTruthy then [none] else []
  | .whenFalse => if v.isTruthy then [] else [none]
  | .each => v.items.map some

theorem Template.renderNode_turns (scopes : List Value) (helper : Helper) (path : List String)
    (line : Nat) (body : List Node) : renderNode scopes (.block helper path line body) =
      String.join ((helper.turns (lookup scopes path)).map fun item =>
        renderNodes (item.toList ++ scopes) body) := by
  cases helper with
  | whenTrue =>
    rw [renderNode, Helper.turns]
    split <;> simp
  | whenFalse =>
    rw [renderNode, Helper.turns]
    split <;> simp
  | each => simp [renderNode, Helper.turns, Function.comp_def]

namespace LayoutNode

/-- The node without conditions and repetition. -/
def undirected (n : LayoutNode) : LayoutNode :=
  { n with ifAll := [], unlessAny := [], each := none }

/-- The node with a single condition or repetition, that of a helper. -/
def directed (n : LayoutNode) (helper : Helper) (path : String) : LayoutNode :=
  match helper with
  | .whenTrue => { n.undirected with ifAll := [path] }
  | .whenFalse => { n.undirected with unlessAny := [path] }
  | .each => { n.undirected with each := some path }

variable {c : RenderContext}

/-- What a node stands for each time it is shown. -/
def shown (n : LayoutNode) (c : RenderContext) : List RenderUnit :=
  if n.layout.isEmpty then [⟨n.name, n.imported c⟩] else planOf (n.imported c) n.layout

theorem plan_eq (c : RenderContext) (n : LayoutNode) :
    plan c n = if n.passes c then (n.instances c).flatMap n.shown else [] := by
  obtain ⟨name, ifAll, unlessAny, each, importPath, layout⟩ := n
  rw [plan]
  rfl

theorem plan_undirected (c : RenderContext) (n : LayoutNode) :
    plan c n.undirected = n.shown c := by
  have hpasses : n.undirected.passes c = true := rfl
  rw [plan_eq, if_pos hpasses]
  exact List.append_nil _

/-- A node with a single condition or repetition is shown in the turns of its helper. -/
theorem plan_directed (c : RenderContext) (n : LayoutNode) (helper : Helper) (path : String) :
    plan c (n.directed helper path) =
      (helper.turns (c.resolve path)).flatMap fun item =>
        plan (item.elim c c.withModule) n.undirected := by
  simp only [plan_undirected]
  cases helper with
  | whenTrue =>
    have hpasses : (n.directed .whenTrue path).passes c = (c.resolve path).isTruthy := by
      simp [directed, undirected, passes]
    rw [plan_eq, hpasses, Helper.turns]
    split
    · rfl
    · rfl
  | whenFalse =>
    have hpasses : (n.directed .whenFalse path).passes c = !(c.resolve path).isTruthy := by
      simp [directed, undirected, passes]
    rw [plan_eq, hpasses, Helper.turns]
    cases (c.resolve path).isTruthy with
    | true => rfl
    | false => rfl
  | each =>
    have hpasses : (n.directed .each path).passes c = true := rfl
    have hinstances : (n.directed .each path).instances c =
        (c.resolve path).items.map c.withModule := rfl
    rw [plan_eq, if_pos hpasses, hinstances, Helper.turns, List.flatMap_map, List.flatMap_map]
    rfl

theorem units_directed (known : String → Bool) (c : RenderContext) (n : LayoutNode)
    (helper : Helper) (path : String) : units known c (n.directed helper path) =
      List.flatten <$> (helper.turns (c.resolve path)).mapM fun item =>
        units known (item.elim c c.withModule) n.undirected := by
  simp only [units_eq]
  rw [plan_directed, RenderUnit.checked_flatMap]

end LayoutNode

/-- A path that templates read leads to the same value in a layout and in a template, so a node
with a single condition or repetition is shown in the same turns, and on the same items, as the
body of the block of the same helper. -/
theorem LayoutNode.directives_agree (c : RenderContext)
    (hpath : Template.path raw.toList = .ok segments) (hthis : segments.head? ≠ some "this") :
    c.resolve raw = Template.lookup [c.scope] segments ∧ ∀ helper : Helper,
      (∀ known (n : LayoutNode), units known c (n.directed helper raw) =
        List.flatten <$> (helper.turns (Template.lookup [c.scope] segments)).mapM fun item =>
          units known (item.elim c c.withModule) n.undirected) ∧
      ∀ line body, Template.renderNode [c.scope] (.block helper segments line body) =
        String.join ((helper.turns (Template.lookup [c.scope] segments)).map fun item =>
          Template.renderNodes (item.toList ++ [c.scope]) body) := by
  have hvalue := Template.lookup_eq_resolve c hpath hthis
  refine ⟨hvalue, fun helper => ⟨fun known n => ?_, fun line body => ?_⟩⟩
  · rw [units_directed, hvalue]
  · rw [Template.renderNode_turns]

/-- A state whose entry has two shelves. -/
def RenderContext.shelved : RenderContext :=
  ⟨{ entry := .mapping [("shelves", .list [.text "a", .text "b"])] }, .null⟩

theorem LayoutNode.directives_agree_shelves :
    Template.path "entry.shelves".toList = .ok ["entry", "shelves"] ∧
      RenderContext.shelved.resolve "entry.shelves" = .list [.text "a", .text "b"] ∧
      units (fun _ => true) .shelved (directed { name := "shelf" } .each "entry.shelves") =
        .ok [⟨"shelf", RenderContext.shelved.withModule (.text "a")⟩,
          ⟨"shelf", RenderContext.shelved.withModule (.text "b")⟩] := by
  have hpath : Template.path "entry.shelves".toList = .ok ["entry", "shelves"] := rfl
  obtain ⟨hvalue, hturns⟩ := directives_agree .shelved hpath (by decide)
  obtain ⟨hunits, -⟩ := hturns .each
  exact ⟨hpath, hvalue.trans rfl, (hunits _ _).trans rfl⟩

end ViewModel
