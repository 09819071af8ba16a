import ViewModel.Layout.Plan
import ViewModel.Proofs.Success

/-!
Plans do not depend on which modules are known: knowing some modules only refuses a plan that
needs another one. The names of a plan are among those that the check of a layout looks at.
-/

namespace ViewModel

namespace RenderUnit

variable {known : String → Bool}

/-- A plan if all its modules are known, and otherwise the first that is not. -/
def checked (known : String → Bool) (plan : List RenderUnit) :
    Except UndefinedModule (List RenderUnit) :=
  match plan.find? fun u => !known u.name with
  | none => .ok plan
  | some u => .error ⟨u.name⟩

theorem checked_eq_ok {plan plan' : List RenderUnit} :
    checked known plan = .ok plan' ↔ plan = plan' ∧ ∀ u ∈ plan, known u.name = true := by
  rw [checked]
  split
  next hnone =>
    have hknown : ∀ u ∈ plan, known u.name = true := by simpa using hnone
    simpa using fun _ => hknown
  next u hsome =>
    have hmem := List.mem_of_find?_eq_some hsome
    have hunknown : known u.name = false := by simpa using List.find?_some hsome
    constructor
    · intro h
      cases h
    · rintro ⟨-, hknown⟩
      exact absurd (hunknown.symm.trans (hknown u hmem)) Bool.false_ne_true

theorem checked_singleton (known : String → Bool) (u : RenderUnit) : checked known [u] =
    if known u.name then .ok [u] else .error ⟨u.name⟩ := by
  cases h : known u.name <;> simp [checked, h]

theorem checked_append (first more : List RenderUnit) : checked known (first ++ more) = (do
    let first ← checked known first
    return first ++ (← checked known more)) := by
  rw [checked, checked, checked, List.find?_append]
  cases first.find? fun u => !known u.name with
  | some u => rfl
  | none => cases more.find? fun u => !known u.name <;> rfl

theorem checked_flatMap {α : Type} (f : α → List RenderUnit) (xs : List α) :
    checked known (xs.flatMap f) = List.flatten <$> xs.mapM fun x => checked known (f x) := by
  induction xs with
  | nil => rfl
  | cons x xs ih =>
    rw [List.flatMap_cons, checked_append, ih, List.mapM_cons]
    cases checked known (f x) with
    | error e => rfl
    | ok units => cases xs.mapM fun x => checked known (f x) <;> rfl

end RenderUnit

namespace LayoutNode

open RenderUnit

variable {u : RenderUnit}

mutual

/-- The modules that a node stands for, known or not. -/
def plan (c : RenderContext) : LayoutNode → List RenderUnit
  | ⟨name, ifAll, unlessAny, each, importPath, layout⟩ =>
      let n : LayoutNode := ⟨name, ifAll, unlessAny, each, importPath, []⟩
      if n.passes c then
        (n.instances c).flatMap fun c =>
          if layout.isEmpty then [⟨name, n.imported c⟩] else planOf (n.imported c) layout
      else []

def planOf (c : RenderContext) : List LayoutNode → List RenderUnit
  | [] => []
  | n :: rest => plan c n ++ planOf c rest

end

mutual

theorem units_eq (known : String → Bool) (c : RenderContext) :
    ∀ n : LayoutNode, units known c n = checked known (plan c n)
  | ⟨name, ifAll, unlessAny, each, importPath, layout⟩ => by
    rw [units, plan]
    dsimp only
    split
    · rw [checked_flatMap, bind_pure_comp]
      refine congrArg (List.flatten <$> (instances _ c).mapM ·) (funext fun c => ?_)
      split
      · rw [checked_singleton]
      · exact unitsOf_eq known _ layout
    · rfl

theorem unitsOf_eq (known : String → Bool) (c : RenderContext) :
    ∀ l : List LayoutNode, unitsOf known c l = checked known (planOf c l)
  | [] => by
    rw [unitsOf, planOf]
    rfl
  | n :: rest => by
    rw [unitsOf, planOf, units_eq known c n, unitsOf_eq known c rest, checked_append]

end

mutual

/-- A node stands for modules that have none inside. -/
theorem mem_leaves_of_mem_plan (c : RenderContext) :
    ∀ n : LayoutNode, u ∈ plan c n → u.name ∈ n.leaves
  | ⟨name, ifAll, unlessAny, each, importPath, layout⟩, h => by
    rw [plan] at h
    split at h
    · obtain ⟨c', -, hu⟩ := List.mem_flatMap.mp h
      cases layout with
      | nil =>
        obtain rfl := List.mem_singleton.mp hu
        exact List.mem_singleton_self _
      | cons n rest => exact mem_leavesOf_of_mem_plan _ (n :: rest) hu
    · cases h

theorem mem_leavesOf_of_mem_plan (c : RenderContext) :
    ∀ l : List LayoutNode, u ∈ planOf c l → u.name ∈ leavesOf l
  | [], h => by
    rw [planOf] at h
    cases h
  | n :: rest, h => by
    rw [planOf] at h
    rw [leavesOf, List.mem_append]
    rcases List.mem_append.mp h with h | h
    · exact .inl (mem_leaves_of_mem_plan c n h)
    · exact .inr (mem_leavesOf_of_mem_plan c rest h)

end

end LayoutNode

namespace Layout

variable {known : String → Bool}

theorem check_eq_ok (l : Layout) :
    l.check known = .ok () ↔ ∀ name ∈ LayoutNode.leavesOf l, known name = true := by
  rw [check, Success.forM_eq_ok]
  refine forall₂_congr fun name _ => ?_
  cases known name <;> simp

theorem units_eq_checked (l : Layout) (snapshot : Snapshot) (module : Value) :
    l.units known snapshot module =
      RenderUnit.checked known (LayoutNode.planOf ⟨snapshot, module⟩ l) :=
  LayoutNode.unitsOf_eq known _ l

end Layout

end ViewModel
