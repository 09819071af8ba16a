import ViewModel.Proofs.Accessor.Depth

/-!
What compiling builds, in whatever order and with whatever failures. Every entry is what its
accessor compiles to where the types are known from the entries before it, and it comes out again
where its property is compiled from a part of the progress.
-/

namespace ViewModel.Accessor

variable {α : Type} {m : Manifest} {c : ClassDecl} {p : PropertyDecl} {done s t : Progress}
  {active : List Key} {fuel : Nat} {r : Compiled}

theorem isDone_eq_true (hp : p.Fresh) :
    isDone done c p = true ↔ p.computed = false ∨ ∃ r, done.lookup (c.name, p.name) = some r := by
  cases hcomputed : p.computed <;>
    simp [isDone, hcomputed, hp.untouched, Option.isSome_iff_exists]

theorem lookup_of_not_isDone (hp : p.Fresh) (h : ¬isDone done c p = true) :
    done.lookup (c.name, p.name) = none := by
  rw [isDone_eq_true hp] at h
  push Not at h
  exact Option.eq_none_iff_forall_ne_some.mpr h.2

namespace Progress

/-- Every entry of `s` that counts is one of `t`. -/
def Part (s t : Progress) : Prop := ∀ key r, s.lookup key = some r → t.lookup key = some r

namespace Part

variable {u : Progress} {key : Key}

theorem refl (s : Progress) : s.Part s := fun _ _ h => h

theorem trans (h : s.Part t) (h' : t.Part u) : s.Part u := fun key r hr => h' key r (h key r hr)

theorem nil (t : Progress) : Part [] t := fun _ _ h => by simp at h

theorem of_initial (h : s <+: t) : s.Part t := fun _ _ hr => lookup_mono h hr

theorem lookup_eq_none (h : s.Part t) (hkey : t.lookup key = none) : s.lookup key = none := by
  cases hs : s.lookup key with
  | none => rfl
  | some r => simp [h key r hs] at hkey

theorem eq_of_lookup {x : Compiled} (h : s.Part t) (hx : s.lookup key = some x)
    (hr : t.lookup key = some r) : x = r :=
  Option.some.inj ((h _ _ hx).symm.trans hr)

/-- An entry of the whole may be added to the part. -/
theorem add (h : s.Part t) (hr : t.lookup key = some r) : Part (s ++ [(key, r)]) t := by
  intro k x hx
  rcases lookup_concat.mp hx with hx | ⟨-, rfl, rfl⟩
  · exact h k x hx
  · exact hr

/-- A new entry may be added to both. -/
theorem add_both (h : s.Part t) (hnew : t.lookup key = none) :
    Part (s ++ [(key, r)]) (t ++ [(key, r)]) :=
  (h.trans (of_initial (List.prefix_append t _))).add (lookup_concat.mpr (.inr ⟨hnew, rfl, rfl⟩))

theorem isDone (h : s.Part t) (hp : p.Fresh) (hs : isDone s c p = true) : isDone t c p = true := by
  rw [isDone_eq_true hp] at hs ⊢
  exact hs.imp_right fun ⟨r, hr⟩ => ⟨r, h _ r hr⟩

theorem typeOf (h : s.Part t) (hp : p.Fresh) (hs : Accessor.isDone s c p = true) :
    s.typeOf c p = t.typeOf c p := by
  unfold Progress.typeOf
  rcases (isDone_eq_true hp).mp hs with hfield | ⟨r, hr⟩
  · simp [hfield]
  · simp [hr, h _ r hr]

end Part

end Progress

/-- The answers that what is compiled gives, if it does. -/
def known (done : Progress) (c : ClassDecl) (p : PropertyDecl) : Compile TypeRef :=
  if isDone done c p then pure (done.typeOf c p) else throw ⟨c.name, p.name, .cycle⟩

theorem pure_ne_throw (a : α) (e : BuildError) : (pure a : Compile α) ≠ throw e :=
  fun h => by simpa using congrArg (fun x => (x.outcome []).1) h

theorem known_eq_pure {u : TypeRef} :
    known done c p = pure u ↔ isDone done c p = true ∧ u = done.typeOf c p := by
  unfold known
  split
  · next h =>
    refine ⟨fun heq => ⟨h, ?_⟩, fun ⟨_, hu⟩ => hu ▸ rfl⟩
    have hout := congrArg (fun x => (x.outcome []).1) heq
    simpa [eq_comm] using hout
  · next h => exact ⟨fun heq => absurd heq.symm (pure_ne_throw _ _), fun ⟨h', _⟩ => absurd h' h⟩

/-- Each entry is what its accessor compiles to where the types are known from the entries before
it. -/
inductive Built (m : Manifest) : Progress → Prop
  | nil : Built m []
  | add {done : Progress} {c : ClassDecl} {p : PropertyDecl} {a : Accessor} {r : Compiled}
      (before : Built m done) (hc : c ∈ m.classes) (hp : p ∈ c.computedProperties)
      (hnew : done.lookup (c.name, p.name) = none) (ha : p.accessor = some a)
      (hr : (siteOf m c p.name (known done)).compile a = pure r) :
      Built m (done ++ [((c.name, p.name), r)])

namespace Built

theorem of_initial (h : Built m t) (hs : s <+: t) : Built m s := by
  induction h generalizing s with
  | nil => exact List.prefix_nil.mp hs ▸ .nil
  | add before hc hp hnew ha hr ih =>
    rcases List.prefix_concat_iff.mp hs with rfl | hs
    · exact .add before hc hp hnew ha hr
    · exact ih hs

end Built

theorem known_lasting (hp : p.Fresh) (u : TypeRef) :
    Lasting (fun done => known done c p = pure u) := by
  intro done after hmore h
  have hpart := Progress.Part.of_initial hmore
  obtain ⟨hdone, rfl⟩ := known_eq_pure.mp h
  exact known_eq_pure.mpr ⟨hpart.isDone hp hdone, hpart.typeOf hp hdone⟩

/-- Where every answer is known afterwards, so is the result. -/
theorem Inquires.meets (hm : m.Fresh) {inv : Progress → Prop} {types : Types}
    (htypes : ∀ c ∈ m.classes, ∀ p ∈ c.properties,
      Meets inv (fun _ => True) (types c p) (fun u done => known done c p = pure u))
    {x : Types → Compile α} (hx : Inquires m x) :
    Meets inv (fun _ => True) (x types) (fun a done => x (known done) = pure a) := by
  induction hx with
  | answer => exact .pure fun _ _ => rfl
  | refuse e => exact .throw e
  | @ask c p next hc hp _ ih =>
    refine .bind (htypes c hc p hp) fun u => ?_
    have hlasting := known_lasting (c := c) (hm.properties c hc p hp) u
    refine ((ih u).keeping hlasting).weaken fun a done h => ?_
    dsimp only
    rw [h.2, pure_bind, h.1]

/-- Where every known answer comes out, so does a known result. -/
theorem Inquires.follows {inv : Progress → Prop} {types : Types}
    (htypes : ∀ c ∈ m.classes, ∀ p ∈ c.properties, ∀ u, known done c p = pure u → ∀ s, inv s →
      ∃ s', (types c p).outcome s = (.ok u, s') ∧ inv s')
    {x : Types → Compile α} (hx : Inquires m x) {a : α} (ha : x (known done) = pure a)
    (hs : inv s) :
    ∃ s', (x types).outcome s = (.ok a, s') ∧ inv s' := by
  induction hx generalizing s with
  | answer b =>
    have hb := congrArg (fun x => (x.outcome s).1) ha
    exact ⟨s, by simpa using hb, hs⟩
  | refuse e => exact absurd ha.symm (pure_ne_throw a e)
  | @ask c p next hc hp _ ih =>
    dsimp only at ha
    cases hanswer : isDone done c p with
    | false =>
      have hknown : known done c p = throw ⟨c.name, p.name, .cycle⟩ := by simp [known, hanswer]
      rw [hknown] at ha
      exact absurd ha.symm (pure_ne_throw a _)
    | true =>
      have hknown : known done c p = pure (done.typeOf c p) := known_eq_pure.mpr ⟨hanswer, rfl⟩
      obtain ⟨s', hout, hs'⟩ := htypes c hc p hp _ hknown s hs
      rw [hknown, pure_bind] at ha
      obtain ⟨s'', hout', hs''⟩ := ih _ ha hs'
      exact ⟨s'', by rw [Compile.outcome_bind, hout]; exact hout', hs''⟩

/-- What asks for the type of a property that is compiled first knows the answer afterwards. -/
theorem typeAfter_meets (hp : p.Fresh) {inv : Progress → Prop}
    {ensure : ClassDecl → PropertyDecl → Compile Unit}
    (h : Meets inv (fun _ => True) (ensure c p) (fun _ done => isDone done c p = true)) :
    Meets inv (fun _ => True) (typeAfter ensure c p)
      (fun u done => known done c p = pure u) := by
  have read : Meets inv (fun done => isDone done c p = true) (do return (← get).typeOf c p)
      (fun u done => known done c p = pure u) := by
    refine .bind .get fun seen => .pure ?_
    rintro done ⟨rfl, hdone⟩
    exact known_eq_pure.mpr ⟨hdone, rfl⟩
  unfold typeAfter
  split
  · exact .bind h fun _ => read
  next hcompiled =>
    refine read.assuming fun done _ => (isDone_eq_true hp).mpr (.inl ?_)
    cases hcomputed : p.computed with
    | false => rfl
    | true => simp [hcomputed, hp.untyped hcomputed] at hcompiled

/-- What is built, with the properties that wait still to be compiled. -/
structure Waiting (m : Manifest) (active : List Key) (done : Progress) : Prop where
  built : Built m done
  undone : ∀ key ∈ active, done.lookup key = none

namespace Waiting

theorem push (h : Waiting m active done) {key : Key} (hkey : done.lookup key = none) :
    Waiting m (key :: active) done :=
  ⟨h.built, List.forall_mem_cons.mpr ⟨hkey, h.undone⟩⟩

theorem pop {key : Key} (h : Waiting m (key :: active) done) : Waiting m active done :=
  ⟨h.built, (List.forall_mem_cons.mp h.undone).2⟩

/-- What waits no longer is compiled. -/
theorem add {a : Accessor} (h : Waiting m ((c.name, p.name) :: active) done)
    (hnot : (c.name, p.name) ∉ active) (hc : c ∈ m.classes) (hp : p ∈ c.computedProperties)
    (ha : p.accessor = some a) (hr : (siteOf m c p.name (known done)).compile a = pure r) :
    Waiting m active (done ++ [((c.name, p.name), r)]) := by
  refine ⟨.add h.built hc hp (h.undone _ List.mem_cons_self) ha hr, fun key hkey => ?_⟩
  refine Option.eq_none_iff_forall_ne_some.mpr fun x hx => ?_
  rcases Progress.lookup_concat.mp hx with hx | ⟨-, rfl, -⟩
  · rw [h.pop.undone key hkey] at hx
    cases hx
  · exact hnot hkey

end Waiting

theorem Meets.within {inv inv' pre : Progress → Prop} {x : Compile α} {mid : α → Progress → Prop}
    (hx : Meets inv' (fun _ => True) x mid) (henter : ∀ done, inv done → pre done → inv' done)
    (hleave : ∀ done, inv' done → inv done) :
    Meets inv pre x (fun a done => mid a done ∧ inv' done) := fun done hinv hpre =>
  let ⟨hinv', hmore, hmid⟩ := hx done (henter done hinv hpre) trivial
  ⟨hleave _ hinv', hmore, fun a ha => ⟨hmid a ha, hinv'⟩⟩

/-- Compiling builds, and leaves alone what waits for it. -/
theorem ensureWith_built (hm : m.Fresh) (fuel : Nat) (active : List Key) (hc : c ∈ m.classes)
    (hp : p ∈ c.properties) :
    Meets (Waiting m active) (fun _ => True) (ensureWith ⟨m, m⟩ fuel active c p)
      (fun _ done => isDone done c p = true) := by
  induction fuel generalizing active c p with
  | zero => exact .throw _
  | succ fuel ih =>
    have hfresh := hm.properties c hc p hp
    unfold ensureWith
    refine .bind .get fun seen => ?_
    split
    next hdone =>
      refine .pure ?_
      rintro done ⟨rfl, -⟩
      exact hdone
    next hundone =>
    dsimp only
    split
    · exact .throw_bind _
    next hnew =>
    have hkey : (c.name, p.name) ∉ active := by simpa using hnew
    split
    · exact .throw _
    next a ha =>
      have hcomputed := computed_of_not_isDone hundone
      have htypes : ∀ d ∈ m.classes, ∀ q ∈ d.properties, Meets _ _ _ _ := fun d hd q hq =>
        typeAfter_meets (hm.properties d hd q hq) (ih ((c.name, p.name) :: active) hd hq)
      have hcompile := Inquires.meets hm htypes (Inquires.compile hc p.name a)
      refine .bind (hcompile.within ?_ fun done h => h.pop) fun r => .add ?_
      · rintro done hwaiting ⟨rfl, -⟩
        exact hwaiting.push (lookup_of_not_isDone hfresh hundone)
      · rintro done - ⟨hr, hwaiting⟩
        have hnone := hwaiting.undone _ List.mem_cons_self
        exact ⟨hwaiting.add hkey hc (List.mem_filter.mpr ⟨hp, hcomputed⟩) ha hr,
          (isDone_eq_true hfresh).mpr
            (.inr ⟨r, Progress.lookup_concat.mpr (.inr ⟨hnone, rfl, rfl⟩)⟩)⟩

theorem typeAfter_computed {ensure : ClassDecl → PropertyDecl → Compile Unit} (hp : p.Fresh)
    (hcomputed : p.computed = true) :
    (typeAfter ensure c p).outcome s =
      match (ensure c p).outcome s with
      | (.ok (), after) => (.ok (after.typeOf c p), after)
      | (.error e, after) => (.error e, after) := by
  have hcompiled : (p.computed && p.type = .unresolved) = true := by
    simp [hcomputed, hp.untyped hcomputed]
  rw [typeAfter, if_pos hcompiled, Compile.outcome_bind]
  rcases (ensure c p).outcome s with ⟨_ | _, after⟩ <;> rfl

theorem typeAfter_field {ensure : ClassDecl → PropertyDecl → Compile Unit}
    (hfield : p.computed = false) : (typeAfter ensure c p).outcome s = (.ok (s.typeOf c p), s) := by
  have hcompiled : ¬(p.computed && p.type = .unresolved) = true := by simp [hfield]
  rw [typeAfter, if_neg hcompiled]
  rfl

theorem typeOf_field (hfield : p.computed = false) : s.typeOf c p = t.typeOf c p := by
  simp [Progress.typeOf, hfield]

theorem typeOf_computed (hp : p.Fresh) (hcomputed : p.computed = true)
    (hr : s.lookup (c.name, p.name) = some r) : s.typeOf c p = r.type := by
  simp [Progress.typeOf, hp.untyped hcomputed, hcomputed, hr]

/-- A known type comes out again where its entry does. -/
theorem typeAfter_known (hp : p.Fresh) {inv : Progress → Prop}
    {ensure : ClassDecl → PropertyDecl → Compile Unit} {u : TypeRef}
    (hu : known done c p = pure u) (hs : inv s)
    (h : ∀ r, p.computed = true → done.lookup (c.name, p.name) = some r → ∃ s',
      (ensure c p).outcome s = (.ok (), s') ∧ inv s' ∧ s'.lookup (c.name, p.name) = some r) :
    ∃ s', (typeAfter ensure c p).outcome s = (.ok u, s') ∧ inv s' := by
  obtain ⟨hdone, rfl⟩ := known_eq_pure.mp hu
  cases hcomputed : p.computed with
  | false => exact ⟨s, typeOf_field hcomputed ▸ typeAfter_field hcomputed, hs⟩
  | true =>
    obtain ⟨r, hr⟩ := lookup_of_isDone hp hcomputed hdone
    obtain ⟨s', hout, hs', hr'⟩ := h r hcomputed hr
    refine ⟨s', ?_, hs'⟩
    rw [typeAfter_computed hp hcomputed, hout]
    dsimp only
    rw [typeOf_computed hp hcomputed hr', typeOf_computed hp hcomputed hr]

/-- Where its accessor compiles to an entry of the whole, a property is compiled to that entry. -/
theorem ensureStep_reproduces (hp : p.Fresh) (hcomputed : p.computed = true) {a : Accessor}
    {ensure : Ensure} {whole : Progress} (hr : whole.lookup (c.name, p.name) = some r)
    (hs : s.Part whole) (hnot : (c.name, p.name) ∉ active) (ha : p.accessor = some a)
    (hcompiled : ∃ s', ((siteOf m c p.name
        (typeAfter (ensure ((c.name, p.name) :: active)))).compile a).outcome s = (.ok r, s') ∧
      s'.Part whole) :
    ∃ s', (ensureStep ⟨m, m⟩ ensure active c p).outcome s = (.ok (), s') ∧ s'.Part whole ∧
      s'.lookup (c.name, p.name) = some r := by
  rw [ensureStep_outcome]
  split
  next hdone =>
    obtain ⟨x, hx⟩ := lookup_of_isDone hp hcomputed hdone
    exact ⟨s, rfl, hs, hs.eq_of_lookup hx hr ▸ hx⟩
  have hcontains : ¬active.contains (c.name, p.name) = true := by simpa using hnot
  obtain ⟨s', hout, hs'⟩ := hcompiled
  rw [if_neg hcontains, ha]
  dsimp only
  rw [hout]
  refine ⟨_, rfl, hs'.add hr, Progress.lookup_concat.mpr ?_⟩
  cases hx : s'.lookup (c.name, p.name) with
  | none => exact .inr ⟨rfl, rfl, rfl⟩
  | some x => exact .inl (congrArg some (hs'.eq_of_lookup hx hr))

/-- An entry comes out again, from any part of the whole that it belongs to. -/
theorem Built.reproduces (hm : m.Fresh) (ht : Built m t) (hc : c ∈ m.classes)
    (hp : p ∈ c.properties) (hcomputed : p.computed = true)
    (hr : t.lookup (c.name, p.name) = some r) {whole : Progress} (hwhole : t.Part whole)
    (hroom : Room m fuel active) (hundone : ∀ key ∈ active, t.lookup key = none)
    (hs : s.Part whole) :
    ∃ s', (ensureWith ⟨m, m⟩ fuel active c p).outcome s = (.ok (), s') ∧ s'.Part whole ∧
      s'.lookup (c.name, p.name) = some r := by
  -- On the entries: what an accessor asked for is an entry before its own.
  induction ht generalizing c p r s fuel active with
  | nil => simp at hr
  | @add done d q a x before hd hq hnew ha hcompiled ih =>
    have hpart : done.Part (done ++ [((d.name, q.name), x)]) :=
      .of_initial (List.prefix_append _ _)
    have hactive : ∀ key ∈ active, done.lookup key = none := fun key hkey =>
      hpart.lookup_eq_none (hundone key hkey)
    rcases Progress.lookup_concat.mp hr with hr' | ⟨-, hkey, rfl⟩
    · exact ih hc hp hcomputed hr' (hpart.trans hwhole) hroom hactive hs
    obtain ⟨rfl, rfl⟩ := key_inj hm hc hd hp (List.mem_of_mem_filter hq) hkey
    obtain ⟨fuel, rfl⟩ : ∃ n, fuel = n + 1 := ⟨fuel - 1, by have := hroom.pos; omega⟩
    have hnot : (c.name, p.name) ∉ active := fun hmem => by
      rw [hundone _ hmem] at hr
      cases hr
    have hroom' := hroom.push (mem_keys hc hp hcomputed) hnot
    have htypes : ∀ e ∈ m.classes, ∀ y ∈ e.properties, ∀ u, known done e y = pure u →
        ∀ s : Progress, s.Part whole → ∃ s',
          (typeAfter (ensureWith ⟨m, m⟩ fuel ((c.name, p.name) :: active)) e y).outcome s =
            (.ok u, s') ∧ s'.Part whole := fun e he y hy u hu s hs =>
      typeAfter_known (hm.properties e he y hy) hu hs fun r hycomputed hr =>
        ih he hy hycomputed hr (hpart.trans hwhole) hroom'
          (List.forall_mem_cons.mpr ⟨hnew, hactive⟩) hs
    exact ensureStep_reproduces (hm.properties c hc p hp) hcomputed (hwhole _ _ hr) hs hnot ha
      (Inquires.follows htypes (Inquires.compile hc p.name a) hcompiled hs)

end ViewModel.Accessor
