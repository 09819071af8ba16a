import ViewModel.Proofs.Layout.Paths

/-!
Layouts with a gap, at any depth. What stands in the gap fills stretches of the plan that lie
between others; those others, and what is seen anywhere, do not depend on it.
-/

namespace ViewModel

/-- A layout with a gap: among modules, or somewhere inside one of them. -/
inductive Layout.Gap
  | among (before after : List LayoutNode)
  | inside (before : List LayoutNode) (n : LayoutNode) (gap : Gap) (after : List LayoutNode)

namespace Layout.Gap

/-- The layout with some nodes in the gap. -/
def fill (nodes : List LayoutNode) : Gap → Layout
  | among before after => before ++ nodes ++ after
  | inside before n gap after => before ++ { n with layout := gap.fill nodes } :: after

/-- Whether a node around the gap is repeated. -/
def isRepeated : Gap → Bool
  | among _ _ => false
  | inside _ n gap _ => n.each.isSome || gap.isRepeated

end Layout.Gap

/-- A stretch of a plan: some nodes next to a gap, or none for what is in the gap, and what they
see. -/
structure Stretch where
  context : RenderContext
  nodes : Option (List LayoutNode)

namespace Layout.Gap

/-- The stretches of a plan in order. Nodes on both sides of the gap, on every level, see what is
seen on their level, whatever the nodes between them choose for themselves. -/
def stretches (c : RenderContext) : Gap → List Stretch
  | among before after => [⟨c, before⟩, ⟨c, none⟩, ⟨c, after⟩]
  | inside before n gap after =>
      ⟨c, before⟩
        :: (if n.passes c then (n.instances c).flatMap fun c => gap.stretches (n.imported c) else [])
        ++ [⟨c, after⟩]

end Layout.Gap

namespace LayoutNode

variable {c : RenderContext} {nodes nodes' : List LayoutNode}

theorem planOf_append (c : RenderContext) (first more : List LayoutNode) :
    planOf c (first ++ more) = planOf c first ++ planOf c more := by
  induction first with
  | nil => rfl
  | cons n first ih => rw [List.cons_append, planOf, planOf, ih, List.append_assoc]

theorem planOf_singleton (c : RenderContext) (n : LayoutNode) : planOf c [n] = plan c n :=
  List.append_nil _

/-- A node with others inside stands for what these stand for. -/
theorem plan_of_layout (c : RenderContext) (n : LayoutNode) (h : nodes ≠ []) :
    plan c { n with layout := nodes } =
      if n.passes c then (n.instances c).flatMap fun c => planOf (n.imported c) nodes else [] := by
  have hshown : shown { n with layout := nodes } = fun c => planOf (n.imported c) nodes := by
    funext c
    have hempty : nodes.isEmpty = false := by simpa using h
    show (if nodes.isEmpty then _ else planOf (n.imported c) nodes) = _
    rw [hempty]
    rfl
  rw [plan_eq, hshown]
  rfl

end LayoutNode

namespace Layout.Gap

open LayoutNode

variable {nodes nodes' : List LayoutNode}

theorem fill_ne_nil (h : nodes ≠ []) : ∀ gap : Gap, gap.fill nodes ≠ []
  | among _ _ => by simp [fill, h]
  | inside _ _ _ _ => by simp [fill]

/-- The plan of a layout goes through the stretches of its gap. -/
theorem planOf_fill (c : RenderContext) (gap : Gap) (h : nodes ≠ []) :
    planOf c (gap.fill nodes) =
      (gap.stretches c).flatMap fun s => planOf s.context (s.nodes.getD nodes) := by
  induction gap generalizing c with
  | among before after =>
    rw [fill, planOf_append, planOf_append]
    simp [stretches]
  | inside before n gap after ih =>
    have hinner : plan c { n with layout := gap.fill nodes } =
        (if n.passes c then (n.instances c).flatMap fun c => gap.stretches (n.imported c)
          else []).flatMap fun s => planOf s.context (s.nodes.getD nodes) := by
      rw [plan_of_layout c n (fill_ne_nil h gap)]
      split
      · rw [List.flatMap_assoc]
        exact congrArg (List.flatMap · _) (funext fun c => ih (n.imported c))
      · rfl
    rw [fill, planOf_append, planOf, hinner]
    simp [stretches]

/-- Nodes that stand for the same wherever they are may replace each other in any gap. -/
theorem planOf_fill_congr (gap : Gap) (h : nodes ≠ []) (h' : nodes' ≠ [])
    (hplan : ∀ c, planOf c nodes = planOf c nodes') (c : RenderContext) :
    planOf c (gap.fill nodes) = planOf c (gap.fill nodes') := by
  rw [planOf_fill c gap h, planOf_fill c gap h']
  refine congrArg (List.flatMap · _) (funext fun s => ?_)
  cases s.nodes with
  | none => exact hplan s.context
  | some beside => rfl

/-- A gap in nodes that are not repeated is one stretch of the plan at most. -/
theorem countP_stretches_le (c : RenderContext) (gap : Gap) (h : gap.isRepeated = false) :
    (gap.stretches c).countP (fun s => s.nodes.isNone) ≤ 1 := by
  induction gap generalizing c with
  | among before after => simp [stretches]
  | inside before n gap after ih =>
    simp only [isRepeated, Bool.or_eq_false_iff, Option.isSome_eq_false_iff,
      Option.isNone_iff_eq_none] at h
    obtain ⟨heach, hgap⟩ := h
    have hinstances : n.instances c = [c] := by rw [instances, heach]
    rw [stretches, hinstances]
    split
    · simpa using ih (n.imported c) hgap
    · simp

end Layout.Gap

namespace LayoutNode

open Layout (Gap)

variable {known : String → Bool} {c : RenderContext}

/-- A node that only holds others stands for these. -/
theorem planOf_holder (c : RenderContext) (name : String) (first : LayoutNode)
    (rest : List LayoutNode) :
    planOf c [{ name, layout := first :: rest }] = planOf c (first :: rest) := by
  rw [planOf_singleton, plan_of_layout c { name } (List.cons_ne_nil first rest)]
  exact List.append_nil _

/-- The name of a node with others inside stands for nothing. -/
theorem plan_rename (c : RenderContext) (n : LayoutNode) (name : String) (first : LayoutNode)
    (rest : List LayoutNode) : plan c { n with name, layout := first :: rest } =
      plan c { n with layout := first :: rest } := by
  have hne := List.cons_ne_nil first rest
  rw [plan_of_layout c n hne, plan_of_layout c { n with name } hne]
  rfl

/-- A repeated node stands, for each item in order, for what it stands for there without its
conditions and its repetition. -/
theorem plan_repeated {n : LayoutNode} {path : String} (hpasses : n.passes c = true)
    (heach : n.each = some path) : plan c n =
      (c.resolve path).items.flatMap fun item => plan (c.withModule item) n.undirected := by
  have hinstances : n.instances c = (c.resolve path).items.map c.withModule := by
    rw [instances, heach]
  rw [plan_eq, if_pos hpasses, hinstances, List.flatMap_map]
  exact congrArg (List.flatMap · _) (funext fun item => (plan_undirected _ n).symm)

end LayoutNode

/-- Directives work where they stand, at any place of a layout and also where a module is refused: a
node that only holds others may be replaced by these, and the name of a node with others inside
counts for nothing; what fills a gap is interpreted in stretches of its own, one at most unless a
node around it is repeated; and a repeated node stands for what it stands for on each item. -/
theorem Layout.directives_local (gap : Gap) (known : String → Bool) (snapshot : Snapshot)
    (module : Value) :
    (∀ name first rest,
      (gap.fill [{ name, layout := first :: rest }]).units known snapshot module =
        (gap.fill (first :: rest)).units known snapshot module) ∧
    (∀ (n : LayoutNode) name first rest,
      (gap.fill [{ n with name, layout := first :: rest }]).units known snapshot module =
        (gap.fill [{ n with layout := first :: rest }]).units known snapshot module) ∧
    (∀ first rest, (gap.fill (first :: rest)).units known snapshot module =
      List.flatten <$> (gap.stretches ⟨snapshot, module⟩).mapM fun s =>
        LayoutNode.unitsOf known s.context (s.nodes.getD (first :: rest))) ∧
    (gap.isRepeated = false →
      (gap.stretches ⟨snapshot, module⟩).countP (fun s => s.nodes.isNone) ≤ 1) ∧
    ∀ c (n : LayoutNode) path items, n.passes c = true → n.each = some path →
      c.resolve path = .list items → LayoutNode.units known c n =
        List.flatten <$> items.mapM fun item =>
          LayoutNode.units known (c.withModule item) n.undirected := by
  refine ⟨fun name first rest => ?_, fun n name first rest => ?_, fun first rest => ?_,
    gap.countP_stretches_le _, fun c n path items hpasses heach hitems => ?_⟩
  · rw [units_eq_checked, units_eq_checked, gap.planOf_fill_congr (List.cons_ne_nil _ _)
      (List.cons_ne_nil _ _) fun c => LayoutNode.planOf_holder c name first rest]
  · rw [units_eq_checked, units_eq_checked]
    refine congrArg _ (gap.planOf_fill_congr (List.cons_ne_nil _ _) (List.cons_ne_nil _ _) ?_ _)
    intro c
    rw [LayoutNode.planOf_singleton, LayoutNode.planOf_singleton, LayoutNode.plan_rename]
  · simp only [units_eq_checked, LayoutNode.unitsOf_eq]
    rw [gap.planOf_fill _ (List.cons_ne_nil _ _), RenderUnit.checked_flatMap]
  · simp only [LayoutNode.units_eq]
    rw [LayoutNode.plan_repeated hpasses heach, hitems, RenderUnit.checked_flatMap]
    rfl

/-- A node that is repeated for two shelves, with a node inside. -/
def LayoutNode.shelf : LayoutNode :=
  { name := "shelf", unlessAny := ["user.hidden"], each := some "entry.shelves",
    layout := [{ name := "tile" }] }

theorem Layout.directives_local_shelves :
    (Gap.isRepeated (.among [{ name := "header" }] []) = false ∧
      (Gap.stretches .shelved (.among [{ name := "header" }] [])).countP
        (fun s => s.nodes.isNone) ≤ 1) ∧
      LayoutNode.shelf.passes .shelved = true ∧
      LayoutNode.units (fun _ => true) .shelved .shelf =
        .ok [⟨"tile", RenderContext.shelved.withModule (.text "a")⟩,
          ⟨"tile", RenderContext.shelved.withModule (.text "b")⟩] := by
  obtain ⟨-, -, -, hcount, hrepeated⟩ := directives_local (.among [{ name := "header" }] [])
    (fun _ => true) RenderContext.shelved.snapshot .null
  have hpasses : LayoutNode.shelf.passes .shelved = true := rfl
  exact ⟨⟨rfl, hcount rfl⟩, hpasses, (hrepeated .shelved .shelf "entry.shelves"
    [.text "a", .text "b"] hpasses rfl rfl).trans rfl⟩

end ViewModel
