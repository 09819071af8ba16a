import ViewModel.Proofs.Accessor.Built

/-!
What is compiled for a property does not depend on what was compiled before: compiling gives the
same from a part of the progress as from the whole, and nothing is a part of everything. Nor does it
depend on what waits for the property, unless that is what it runs into.
-/

namespace ViewModel

namespace Accessor

variable {α β : Type} {m : Manifest} {c : ClassDecl} {p : PropertyDecl} {done s t : Progress}
  {active active' : List Key} {fuel fuel' : Nat}

/-- What two progresses say of each other while the same is compiled from both: one is a part of
the other, and what waits is compiled in neither. -/
structure Matched (m : Manifest) (active : List Key) (s t : Progress) : Prop where
  left : Built m s
  right : Waiting m active t
  part : s.Part t

namespace Matched

theorem waiting (h : Matched m active' s t) (hsub : active ⊆ active') : Waiting m active s :=
  ⟨h.left, fun key hkey => h.part.lookup_eq_none (h.right.undone key (hsub hkey))⟩

theorem push (h : Matched m active s t) {key : Key} (hkey : t.lookup key = none) :
    Matched m (key :: active) s t :=
  ⟨h.left, h.right.push hkey, h.part⟩

end Matched

/-- Both give the same result from progresses that are related, and relate what they lead to,
unless the second fails with an error of `apart`. -/
def Agrees (apart : BuildError → Prop) (R : Progress → Progress → Prop) (x y : Compile α) : Prop :=
  ∀ s t, R s t → (∃ e, apart e ∧ (y.outcome t).1 = .error e) ∨
    (x.outcome s).1 = (y.outcome t).1 ∧ R (x.outcome s).2 (y.outcome t).2

namespace Agrees

variable {apart apart' : BuildError → Prop} {R : Progress → Progress → Prop}

theorem pure (a : α) : Agrees apart R (pure a) (pure a) := fun _ _ h => .inr ⟨rfl, h⟩

theorem throw (e : BuildError) : Agrees apart R (throw e : Compile α) (throw e) :=
  fun _ _ h => .inr ⟨rfl, h⟩

theorem weaken {x y : Compile α} (h : Agrees apart R x y) (happart : ∀ e, apart e → apart' e) :
    Agrees apart' R x y := fun s t hst =>
  (h s t hst).imp_left fun ⟨e, he, hout⟩ => ⟨e, happart e he, hout⟩

/-- Both fail alike, or both succeed alike, unless there is such an error. -/
theorem cases {x y : Compile α} (h : Agrees apart R x y) (hst : R s t) :
    (∃ e t', apart e ∧ y.outcome t = (.error e, t')) ∨
      ∃ s' t', R s' t' ∧ ((∃ e, x.outcome s = (.error e, s') ∧ y.outcome t = (.error e, t')) ∨
        ∃ a, x.outcome s = (.ok a, s') ∧ y.outcome t = (.ok a, t')) := by
  rcases h s t hst with ⟨e, he, hout⟩ | ⟨hresult, hafter⟩
  · exact .inl ⟨e, _, he, Prod.ext hout rfl⟩
  rcases hout : x.outcome s with ⟨_ | a, s'⟩ <;> rw [hout] at hresult hafter
  · exact .inr ⟨s', _, hafter, .inl ⟨_, rfl, Prod.ext hresult.symm rfl⟩⟩
  · exact .inr ⟨s', _, hafter, .inr ⟨a, rfl, Prod.ext hresult.symm rfl⟩⟩

theorem bind {x y : Compile α} {f g : α → Compile β} (hx : Agrees apart R x y)
    (hf : ∀ a, Agrees apart R (f a) (g a)) : Agrees apart R (x >>= f) (y >>= g) := by
  intro s t h
  rw [Compile.outcome_bind, Compile.outcome_bind]
  obtain ⟨e, t', he, hout'⟩ | ⟨s', t', hafter, ⟨e, hout, hout'⟩ | ⟨a, hout, hout'⟩⟩ := hx.cases h
  · rw [hout']
    exact .inl ⟨e, he, rfl⟩
  · rw [hout, hout']
    exact .inr ⟨rfl, hafter⟩
  · rw [hout, hout']
    exact hf a s' t' hafter

theorem forM {xs : List β} {f g : β → Compile Unit}
    (h : ∀ b ∈ xs, Agrees apart R (f b) (g b)) : Agrees apart R (xs.forM f) (xs.forM g) := by
  induction xs with
  | nil => exact pure ()
  | cons b xs ih =>
    exact bind (h b List.mem_cons_self) fun _ => ih fun b hb => h b (List.mem_cons_of_mem _ hb)

/-- Where all answers agree, so do the results. -/
theorem of_inquires {types types' : Types}
    (htypes : ∀ c ∈ m.classes, ∀ p ∈ c.properties, Agrees apart R (types c p) (types' c p))
    {x : Types → Compile α} (hx : Inquires m x) : Agrees apart R (x types) (x types') := by
  induction hx with
  | answer a => exact pure a
  | refuse e => exact throw e
  | ask hc hp _ ih => exact bind (htypes _ hc _ hp) ih

end Agrees

theorem typeAfter_agrees (hp : p.Fresh) {apart : BuildError → Prop}
    {ensure ensure' : ClassDecl → PropertyDecl → Compile Unit} (hsub : active ⊆ active')
    (hbuilt : Meets (Waiting m active) (fun _ => True) (ensure c p)
      (fun _ done => isDone done c p = true))
    (h : Agrees apart (Matched m active') (ensure c p) (ensure' c p)) :
    Agrees apart (Matched m active') (typeAfter ensure c p) (typeAfter ensure' c p) := by
  intro s t hst
  cases hcomputed : p.computed with
  | false =>
    rw [typeAfter_field hcomputed, typeAfter_field hcomputed]
    exact .inr ⟨congrArg Except.ok (typeOf_field hcomputed), hst⟩
  | true =>
    obtain ⟨-, -, hdone⟩ := hbuilt s (hst.waiting hsub) trivial
    rw [typeAfter_computed hp hcomputed, typeAfter_computed hp hcomputed]
    obtain ⟨e, t', he, hout'⟩ | ⟨s', t', hafter, ⟨e, hout, hout'⟩ | ⟨_, hout, hout'⟩⟩ := h.cases hst
    · rw [hout']
      exact .inl ⟨e, he, rfl⟩
    · rw [hout, hout']
      exact .inr ⟨rfl, hafter⟩
    · rw [hout] at hdone
      rw [hout, hout']
      exact .inr ⟨congrArg Except.ok (hafter.part.typeOf hp (hdone () rfl)), hafter⟩

/-- What the whole has compiled is compiled to the same from a part. -/
theorem ensureWith_of_isDone (hm : m.Fresh) (hsub : active ⊆ active')
    (hroom : Room m (fuel + 1) active) (hc : c ∈ m.classes) (hp : p ∈ c.properties)
    (hst : Matched m active' s t) (hdone : isDone t c p = true) :
    ∃ s', (ensureWith ⟨m, m⟩ (fuel + 1) active c p).outcome s = (.ok (), s') ∧ s'.Part t := by
  have hfresh := hm.properties c hc p hp
  cases hcomputed : p.computed with
  | false =>
    have hdone' : isDone s c p = true := (isDone_eq_true hfresh).mpr (.inl hcomputed)
    rw [ensureWith_succ, ensureStep_outcome, if_pos hdone']
    exact ⟨s, rfl, hst.part⟩
  | true =>
    obtain ⟨r, hr⟩ := lookup_of_isDone hfresh hcomputed hdone
    obtain ⟨s', hout, hs', -⟩ := hst.right.built.reproduces hm hc hp hcomputed hr (.refl t)
      hroom (fun key hkey => hst.right.undone key (hsub hkey)) hst.part
    exact ⟨s', hout, hs'⟩

/-- The error is a cycle that runs into a property of `active'`, and that one is not in `active`. -/
def RunsInto (active' active : List Key) (e : BuildError) : Prop :=
  e.cause = .cycle ∧ (e.className, e.property) ∈ active' ∧ (e.className, e.property) ∉ active

/-- Compiling gives the same from a part of the progress as from the whole, and the same while fewer
properties wait, unless it runs into one of the others. -/
theorem ensureWith_agrees (hm : m.Fresh) (hsub : active ⊆ active') (hroom : Room m fuel active)
    (hroom' : Room m fuel' active') (hc : c ∈ m.classes) (hp : p ∈ c.properties) :
    Agrees (RunsInto active' active) (Matched m active') (ensureWith ⟨m, m⟩ fuel active c p)
      (ensureWith ⟨m, m⟩ fuel' active' c p) := by
  induction fuel generalizing fuel' active active' c p with
  | zero => exact absurd hroom.pos (Nat.lt_irrefl 0)
  | succ fuel ih =>
    obtain ⟨fuel', rfl⟩ : ∃ n, fuel' = n + 1 := ⟨fuel' - 1, by have := hroom'.pos; omega⟩
    intro s t hst
    have hfresh := hm.properties c hc p hp
    have hleft := (ensureWith_built hm (fuel + 1) active hc hp s (hst.waiting hsub) trivial).1
    have hright := (ensureWith_built hm (fuel' + 1) active' hc hp t hst.right trivial).1
    suffices h : (∃ e, RunsInto active' active e ∧
        ((ensureWith ⟨m, m⟩ (fuel' + 1) active' c p).outcome t).1 = .error e) ∨
        ((ensureWith ⟨m, m⟩ (fuel + 1) active c p).outcome s).1 =
          ((ensureWith ⟨m, m⟩ (fuel' + 1) active' c p).outcome t).1 ∧
        ((ensureWith ⟨m, m⟩ (fuel + 1) active c p).outcome s).2.Part
          ((ensureWith ⟨m, m⟩ (fuel' + 1) active' c p).outcome t).2 from
      h.imp_right fun h => ⟨h.1, hleft.built, hright, h.2⟩
    clear hleft hright
    -- What only the whole has, the part makes up for; what neither has, both compile alike.
    by_cases hdone : isDone t c p = true
    · obtain ⟨s', hout, hs'⟩ := ensureWith_of_isDone hm hsub hroom hc hp hst hdone
      rw [hout, ensureWith_succ, ensureStep_outcome, if_pos hdone]
      exact .inr ⟨rfl, hs'⟩
    have hdone' : ¬isDone s c p = true := fun h => hdone (hst.part.isDone hfresh h)
    rw [ensureWith_succ, ensureWith_succ, ensureStep_outcome, ensureStep_outcome, if_neg hdone,
      if_neg hdone']
    by_cases hwaits' : (c.name, p.name) ∈ active'
    · rw [if_pos (List.contains_iff_mem.mpr hwaits')]
      by_cases hwaits : (c.name, p.name) ∈ active
      · rw [if_pos (List.contains_iff_mem.mpr hwaits)]
        exact .inr ⟨rfl, hst.part⟩
      · exact .inl ⟨_, ⟨rfl, hwaits', hwaits⟩, rfl⟩
    have hwaits : (c.name, p.name) ∉ active := fun h => hwaits' (hsub h)
    rw [if_neg fun h => hwaits' (List.contains_iff_mem.mp h),
      if_neg fun h => hwaits (List.contains_iff_mem.mp h)]
    split
    · exact .inr ⟨rfl, hst.part⟩
    next a _ =>
    have hkey := mem_keys hc hp (computed_of_not_isDone hdone)
    have htypes : ∀ d ∈ m.classes, ∀ q ∈ d.properties, Agrees _ _ _ _ := fun d hd q hq =>
      typeAfter_agrees (hm.properties d hd q hq) (List.cons_subset_cons _ hsub)
        (ensureWith_built hm fuel _ hd hq)
        (ih (List.cons_subset_cons _ hsub) (hroom.push hkey hwaits) (hroom'.push hkey hwaits')
          hd hq)
    have hcompile := Agrees.of_inquires htypes (Inquires.compile hc p.name a)
    obtain ⟨e, t', ⟨hcycle, hmem, hnot⟩, hout'⟩ |
        ⟨s', t', hafter, ⟨e, hout, hout'⟩ | ⟨r, hout, hout'⟩⟩ :=
      hcompile.cases (hst.push (lookup_of_not_isDone hfresh hdone))
    · rw [hout']
      obtain ⟨hne, hnot⟩ := List.ne_and_not_mem_of_not_mem_cons hnot
      exact .inl ⟨e, ⟨hcycle, (List.mem_cons.mp hmem).resolve_left hne, hnot⟩, rfl⟩
    · rw [hout, hout']
      exact .inr ⟨rfl, hafter.part⟩
    · rw [hout, hout']
      exact .inr ⟨rfl, hafter.part.add_both (hafter.right.undone _ List.mem_cons_self)⟩

/-- Something to be done with a manifest. -/
inductive Task
  | property (c : ClassDecl) (p : PropertyDecl)
  | classOf (c : ClassDecl)
  | everything

namespace Task

def run (m : Manifest) : Task → Compile Unit
  | property c p => ensure ⟨m, m⟩ c p
  | classOf c => compileClass ⟨m, m⟩ c
  | everything => compileAll ⟨m, m⟩

/-- The class and the property are of the manifest. -/
def Within (m : Manifest) : Task → Prop
  | property c p => c ∈ m.classes ∧ p ∈ c.properties
  | classOf c => c ∈ m.classes
  | everything => True

/-- What is compiled after some tasks, whether or not they succeed. -/
def progress (m : Manifest) (start : Progress) (tasks : List Task) : Progress :=
  tasks.foldl (fun done task => ((task.run m).outcome done).2) start

variable {task : Task} {tasks : List Task}

theorem run_agrees (hm : m.Fresh) (h : task.Within m) (s t : Progress)
    (hst : Matched m [] s t) :
    ((task.run m).outcome s).1 = ((task.run m).outcome t).1 ∧
      Matched m [] ((task.run m).outcome s).2 ((task.run m).outcome t).2 := by
  have property {c : ClassDecl} (hc : c ∈ m.classes) {p : PropertyDecl} (hp : p ∈ c.properties) :
      Agrees (fun _ => False) (Matched m []) (ensure ⟨m, m⟩ c p) (ensure ⟨m, m⟩ c p) :=
    (ensureWith_agrees hm (List.Subset.refl []) (.start m) (.start m) hc hp).weaken
      fun _ h => List.not_mem_nil h.2.1
  have classOf {c : ClassDecl} (hc : c ∈ m.classes) :
      Agrees (fun _ => False) (Matched m []) (compileClass ⟨m, m⟩ c) (compileClass ⟨m, m⟩ c) :=
    .forM fun p hp => property hc (List.mem_of_mem_filter hp)
  have agrees : Agrees (fun _ => False) (Matched m []) (task.run m) (task.run m) := by
    cases task with
    | property c p => exact property h.1 h.2
    | classOf c => exact classOf h
    | everything => exact .forM fun c hc => classOf hc
  exact (agrees s t hst).resolve_left fun ⟨_, hfalse, _⟩ => hfalse

theorem run_built (hm : m.Fresh) (h : task.Within m) :
    Meets (Waiting m []) (fun _ => True) (task.run m) (fun _ _ => True) := by
  have property {c : ClassDecl} (hc : c ∈ m.classes) {p : PropertyDecl} (hp : p ∈ c.properties) :
      Meets (Waiting m []) (fun _ => True) (ensure ⟨m, m⟩ c p) (fun _ _ => True) :=
    (ensureWith_built hm _ [] hc hp).weaken fun _ _ _ => trivial
  have classOf {c : ClassDecl} (hc : c ∈ m.classes) :
      Meets (Waiting m []) (fun _ => True) (compileClass ⟨m, m⟩ c) (fun _ _ => True) :=
    (Meets.forM (fun p hp => property hc (List.mem_of_mem_filter hp)) fun _ _ _ _ h => h).weaken
      fun _ _ _ => trivial
  cases task with
  | property c p => exact property h.1 h.2
  | classOf c => exact classOf h
  | everything =>
    exact (Meets.forM (fun c hc => classOf hc) fun _ _ _ _ h => h).weaken fun _ _ _ => trivial

theorem progress_built (hm : m.Fresh) (h : ∀ task ∈ tasks, task.Within m) {start : Progress}
    (hstart : Waiting m [] start) :
    Waiting m [] (progress m start tasks) ∧ start <+: progress m start tasks := by
  induction tasks generalizing start with
  | nil => exact ⟨hstart, List.prefix_rfl⟩
  | cons task tasks ih =>
    obtain ⟨hbuilt, hmore, -⟩ := run_built hm (h task List.mem_cons_self) start hstart trivial
    obtain ⟨hbuilt', hmore'⟩ := ih (fun t ht => h t (List.mem_cons_of_mem _ ht)) hbuilt
    exact ⟨hbuilt', hmore.trans hmore'⟩

end Task

/-- What is compiled for a property is what compiling it first gives. -/
theorem Built.settle_eq (hm : m.Fresh) (h : Built m done) (hc : c ∈ m.classes)
    (hp : p ∈ c.computedProperties) :
    done.settle c p = p ∨ ∃ first, (ensure ⟨m, m⟩ c p).outcome [] = (.ok (), first) ∧
      done.settle c p = first.settle c p := by
  obtain ⟨hmem, hcomputed⟩ := List.mem_filter.mp hp
  have hfresh := hm.properties c hc p hmem
  cases hr : done.lookup (c.name, p.name) with
  | none => exact .inl (by simp [Progress.settle, hr])
  | some r =>
    obtain ⟨first, hout, -, hfirst⟩ := h.reproduces hm hc hmem hcomputed hr (.refl done)
      (.start m) (by simp) (.nil done)
    refine .inr ⟨first, hout, ?_⟩
    rw [Progress.settle_computed hfresh hcomputed hr,
      Progress.settle_computed hfresh hcomputed hfirst]

theorem Progress.settle_lasting (h : s <+: t) (hset : s.settle c p ≠ p) :
    t.settle c p = s.settle c p := by
  unfold settle at hset ⊢
  split
  · rfl
  next hdone =>
    cases hr : s.lookup (c.name, p.name) with
    | none => simp [hdone, hr] at hset
    | some r => rw [lookup_mono h hr]

end Accessor

open Accessor

/-- Whatever was compiled before, in whatever order and with whatever failures, a task gives what it
gives at first. At every moment a computed property is untouched or has what compiling it first
gives; it keeps what it has; and where compiling it fails it is untouched. Entries are added one by
one and never go, so what there is at a moment, also within a task, is a beginning of what there is
after the tasks. -/
theorem Manifest.compile_independent {all : List Source.Declaration} {m : Manifest}
    (hm : Resolve.manifest all = .ok m) (tasks : List Task)
    (hwithin : ∀ task ∈ tasks, task.Within m) :
    (∀ task : Task, task.Within m →
      ((task.run m).outcome (Task.progress m [] tasks)).1 = ((task.run m).outcome []).1) ∧
    (∀ moment : Progress, moment <+: Task.progress m [] tasks →
      ∀ c ∈ m.classes, ∀ p ∈ c.computedProperties, p.type = .unresolved ∧ p.expression = .hole ∧
        (moment.settle c p = p ∨ ∃ first, (ensure ⟨m, m⟩ c p).outcome [] = (.ok (), first) ∧
          moment.settle c p = first.settle c p)) ∧
    (∀ more, (∀ task ∈ more, task.Within m) →
      Task.progress m [] tasks <+: Task.progress m [] (tasks ++ more) ∧
      ∀ moment later : Progress, moment <+: later → later <+: Task.progress m [] (tasks ++ more) →
        ∀ c ∈ m.classes, ∀ p ∈ c.computedProperties, moment.settle c p ≠ p →
          later.settle c p = moment.settle c p) ∧
    ∀ c ∈ m.classes, ∀ p ∈ c.computedProperties, ∀ e after,
      (ensure ⟨m, m⟩ c p).outcome (Task.progress m [] tasks) = (.error e, after) →
        after.settle c p = p := by
  have hfresh := Resolve.manifest_fresh hm
  have hnil : Waiting m [] [] := ⟨.nil, by simp⟩
  have hbuilt := (Task.progress_built hfresh hwithin hnil).1
  have hresult (task : Task) (htask : task.Within m) :
      ((task.run m).outcome (Task.progress m [] tasks)).1 = ((task.run m).outcome []).1 :=
    (Task.run_agrees hfresh htask [] _ ⟨.nil, hbuilt, .nil _⟩).1.symm
  refine ⟨hresult, fun moment hmoment c hc p hp => ?_, fun more hmore => ⟨?_, ?_⟩, ?_⟩
  · obtain ⟨hmem, hcomputed⟩ := List.mem_filter.mp hp
    have hprop := hfresh.properties c hc p hmem
    exact ⟨hprop.untyped hcomputed, hprop.untouched,
      (hbuilt.built.of_initial hmoment).settle_eq hfresh hc hp⟩
  · rw [Task.progress, Task.progress, List.foldl_append]
    exact (Task.progress_built hfresh hmore hbuilt).2
  · exact fun moment later hlater _ c _ p _ hset => Progress.settle_lasting hlater hset
  · intro c hc p hp e after hfails
    have hmem := List.mem_of_mem_filter hp
    have htask : (Task.property c p).Within m := ⟨hc, hmem⟩
    have hafter := (Task.run_built hfresh htask _ hbuilt trivial).1
    have hfirst := hresult _ htask
    rw [Task.run, hfails] at hafter hfirst
    rcases hafter.built.settle_eq hfresh hc hp with huntouched | ⟨first, hout, -⟩
    · exact huntouched
    · rw [hout] at hfirst
      cases hfirst

namespace Sample

open Source (Term Declaration)

/-- Two accessors that read each other, and one that reads nothing. -/
def circle : Declaration where
  name := "Circle"
  base := none
  members := [.accessor "near" 3 (.access (.name "self") "far") none,
    .accessor "far" 7 (.access (.name "self") "near") none,
    .accessor "still" 11 (.constant (.bool true)) none]
  source := "model.py"
  line := 1

def accessor (name : String) (expression : Term) : PropertyDecl :=
  { name := name, computed := true, accessor := some ⟨expression, none⟩ }

def near : PropertyDecl := accessor "near" (.access (.name "self") "far")

def far : PropertyDecl := accessor "far" (.access (.name "self") "near")

def still : PropertyDecl := accessor "still" (.constant (.bool true))

def circleClass : ClassDecl :=
  { name := "Circle", properties := [near, far, still], source := some "model.py" }

def circular : Manifest := ⟨[circleClass]⟩

theorem circular_eq : Resolve.manifest [circle] = .ok circular := rfl

/-- Fails, succeeds, and fails again. -/
def tasks : List Task :=
  [.property circleClass near, .property circleClass still, .classOf circleClass]

theorem tasks_within : ∀ task ∈ tasks, task.Within circular := by
  simp [tasks, Task.Within, circular, circleClass]

end Sample

/-- Compiling all fails after some progress as it does at first. -/
theorem Manifest.compile_independent_circular :
    ((Task.everything.run Sample.circular).outcome
      (Task.progress Sample.circular [] Sample.tasks)).1 = .error ⟨"Circle", "near", .cycle⟩ :=
  ((Manifest.compile_independent Sample.circular_eq Sample.tasks Sample.tasks_within).1
    .everything trivial).trans rfl

end ViewModel
