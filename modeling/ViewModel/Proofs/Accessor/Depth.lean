import Mathlib.Data.List.Perm.Subperm
import ViewModel.Proofs.Accessor.Inquiry

/-!
How deep compiling goes. A property that waits for another is not compiled again, so no more
properties wait for each other than there are, and the bound that compiling is given is never met.
-/

namespace ViewModel

/-- The computed properties by class and name. -/
def Manifest.keys (m : Manifest) : List Accessor.Key :=
  m.classes.flatMap fun c => c.computedProperties.map fun p => (c.name, p.name)

namespace Accessor

variable {m : Manifest} {c : ClassDecl} {p : PropertyDecl} {active : List Key} {fuel : Nat}

theorem Compile.ext {α : Type} {x y : Compile α} (h : ∀ done, x.outcome done = y.outcome done) :
    x = y := funext h

theorem computed_of_not_isDone {done : Progress} (h : ¬isDone done c p = true) :
    p.computed = true := by
  cases hcomputed : p.computed with
  | true => rfl
  | false => simp [isDone, hcomputed] at h

theorem mem_keys (hc : c ∈ m.classes) (hp : p ∈ c.properties) (hcomputed : p.computed = true) :
    (c.name, p.name) ∈ m.keys :=
  List.mem_flatMap.mpr ⟨c, hc, List.mem_map.mpr ⟨p, List.mem_filter.mpr ⟨hp, hcomputed⟩, rfl⟩⟩

theorem length_keys (m : Manifest) : m.keys.length = m.summary.computed := by
  simp [Manifest.keys, Manifest.summary, List.length_flatMap]

/-- Compiles properties while others wait for them. -/
abbrev Ensure := List Key → ClassDecl → PropertyDecl → Compile Unit

/-- Compiles a property where `ensure` compiles those that it reads. -/
def ensureStep (scope : Scope) (ensure : Ensure) : Ensure := fun active c p => do
  if isDone (← get) c p then return ()
  let key := (c.name, p.name)
  if active.contains key then throw ⟨c.name, p.name, .cycle⟩
  match p.accessor with
  | none => throw ⟨c.name, p.name, .noExpression⟩
  | some a =>
      let r ← Site.compile ⟨scope, c, p.name, typeAfter (ensure (key :: active))⟩ a
      modify (· ++ [(key, r)])

/-- What compiling a property does: nothing, or fail at once, or compile the accessor. -/
theorem ensureStep_outcome (ensure : Ensure) (done : Progress) :
    (ensureStep ⟨m, m⟩ ensure active c p).outcome done =
      if isDone done c p then (.ok (), done)
      else if active.contains (c.name, p.name) then (.error ⟨c.name, p.name, .cycle⟩, done)
      else
        match p.accessor with
        | none => (.error ⟨c.name, p.name, .noExpression⟩, done)
        | some a =>
            match ((siteOf m c p.name
                (typeAfter (ensure ((c.name, p.name) :: active)))).compile a).outcome done with
            | (.ok r, after) => (.ok (), after ++ [((c.name, p.name), r)])
            | (.error e, after) => (.error e, after) := by
  unfold ensureStep
  rw [Compile.outcome_bind, Compile.outcome_get]
  dsimp only
  split
  · rfl
  split
  · rfl
  split
  · rfl
  next a _ =>
    rw [Compile.outcome_bind]
    cases ((siteOf m c p.name (typeAfter (ensure ((c.name, p.name) :: active)))).compile a).outcome
      done with
    | mk r after => cases r <;> rfl

theorem ensureWith_succ (scope : Scope) (fuel : Nat) :
    ensureWith scope (fuel + 1) = ensureStep scope (ensureWith scope fuel) := rfl

/-- Room for more properties to wait: those that wait are different computed properties, and the
fuel is enough for all the others. -/
structure Room (m : Manifest) (fuel : Nat) (active : List Key) : Prop where
  nodup : active.Nodup
  keys : active ⊆ m.keys
  enough : m.summary.computed < fuel + active.length

namespace Room

theorem none (h : m.summary.computed < fuel) : Room m fuel [] :=
  ⟨List.nodup_nil, List.nil_subset _, h⟩

/-- The room that compiling starts with. -/
theorem start (m : Manifest) : Room m (m.summary.computed + 2) [] := .none (by omega)

theorem pos (h : Room m fuel active) : 0 < fuel := by
  have hlength := (h.nodup.subperm h.keys).length_le
  have henough := h.enough
  rw [length_keys] at hlength
  omega

theorem push (h : Room m (fuel + 1) active) {key : Key} (hkey : key ∈ m.keys)
    (hnew : key ∉ active) : Room m fuel (key :: active) where
  nodup := List.nodup_cons.mpr ⟨hnew, h.nodup⟩
  keys := List.cons_subset.mpr ⟨hkey, h.keys⟩
  enough := by
    have henough := h.enough
    rw [List.length_cons]
    omega

end Room

/-- Compiles a property to a depth, below which `bottom` is asked. -/
def ensureDown (scope : Scope) (bottom : Ensure) : Nat → Ensure
  | 0 => bottom
  | depth + 1 => ensureStep scope (ensureDown scope bottom depth)

theorem ensureWith_eq_ensureDown (scope : Scope) (fuel : Nat) :
    ensureWith scope fuel =
      ensureDown scope (fun _ c p => throw ⟨c.name, p.name, .cycle⟩) fuel := by
  induction fuel with
  | zero => rfl
  | succ fuel ih => rw [ensureWith_succ, ensureDown, ih]

/-- Where there is room, what lies below does not matter, nor how far below it lies. -/
theorem ensureDown_eq {bottom bottom' : Ensure} {depth depth' : Nat}
    (h : Room m depth active) (h' : Room m depth' active) (hc : c ∈ m.classes)
    (hp : p ∈ c.properties) :
    ensureDown ⟨m, m⟩ bottom depth active c p = ensureDown ⟨m, m⟩ bottom' depth' active c p := by
  induction depth generalizing depth' active c p with
  | zero => exact absurd h.pos (Nat.lt_irrefl 0)
  | succ depth ih =>
    obtain ⟨depth', rfl⟩ : ∃ n, depth' = n + 1 := ⟨depth' - 1, by have := h'.pos; omega⟩
    refine Compile.ext fun done => ?_
    rw [ensureDown, ensureDown, ensureStep_outcome, ensureStep_outcome]
    split
    · rfl
    next hdone =>
    split
    · rfl
    next hnew =>
    split
    · rfl
    next a _ =>
    have hkey := mem_keys hc hp (computed_of_not_isDone hdone)
    have hnew' : (c.name, p.name) ∉ active := by simpa using hnew
    have htypes : ∀ d ∈ m.classes, ∀ q ∈ d.properties,
        typeAfter (ensureDown ⟨m, m⟩ bottom depth ((c.name, p.name) :: active)) d q =
          typeAfter (ensureDown ⟨m, m⟩ bottom' depth' ((c.name, p.name) :: active)) d q := by
      intro d hd q hq
      rw [typeAfter, typeAfter, ih (h.push hkey hnew') (h'.push hkey hnew') hd hq]
    rw [(Inquires.compile hc p.name a).congr htypes]

/-- Compiles every property of every class, in order, each to a depth. -/
def compileAllDown (scope : Scope) (bottom : Ensure) (depth : Nat) : Compile Unit :=
  scope.visible.classes.forM fun c =>
    c.computedProperties.forM (ensureDown scope bottom depth [] c)

theorem forM_congr {β : Type} {xs : List β} {f g : β → Compile Unit}
    (h : ∀ b ∈ xs, f b = g b) : xs.forM f = xs.forM g := by
  induction xs with
  | nil => rfl
  | cons b xs ih =>
    rw [List.forM, List.forM, h b List.mem_cons_self,
      ih fun b hb => h b (List.mem_cons_of_mem _ hb)]

/-- Compiling all never goes deeper than there are computed properties. -/
theorem compileAllDown_eq (bottom : Ensure) {depth : Nat} (h : m.summary.computed < depth) :
    compileAllDown ⟨m, m⟩ bottom depth = compileAll ⟨m, m⟩ := by
  refine forM_congr fun c hc => forM_congr fun p hp => ?_
  rw [ensure, ensureWith_eq_ensureDown]
  exact ensureDown_eq (.none h) (.start m) hc (List.mem_of_mem_filter hp)

end Accessor

end ViewModel
