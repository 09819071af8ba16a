import ViewModel.Proofs.Accessor.Emit

/-!
Whatever has been compiled, in whatever order and with whatever failures in between, is what its
accessor stands for, and so is well typed.
-/

namespace ViewModel

namespace Accessor

variable {m : Manifest} {done after : Progress} {c : ClassDecl} {p : PropertyDecl}

/-- A result is what its accessor stands for, under the type that is inferred or that type with
null added. -/
def Compiled.Means (m : Manifest) (c : String) (a : Accessor) (r : Compiled) : Prop :=
  ∃ t, Elaborates m c a.expression r.expression (.known t) ∧ (r.type = t ∨ r.type = t.orNull) ∧
    r.type.isProper = true

/-- Whatever is compiled for a property is what its accessor stands for. -/
def Progress.Sound (m : Manifest) (done : Progress) : Prop :=
  ∀ c ∈ m.classes, ∀ p ∈ c.properties, ∀ r, done.lookup (c.name, p.name) = some r →
    ∃ a, p.accessor = some a ∧ r.Means (done.apply m) c.name a

theorem means_lasting (hm : m.Fresh) (c : String) (a : Accessor) (r : Compiled) :
    Lasting (fun done => r.Means (done.apply m) c a) := by
  rintro done after hprefix ⟨t, h, ht, hproper⟩
  exact ⟨t, elaborates_lasting hm c _ _ _ done after hprefix h, ht, hproper⟩

theorem isDone_lasting (c : ClassDecl) (p : PropertyDecl) :
    Lasting (fun done => isDone done c p = true) := by
  intro done after hprefix h
  simp only [isDone, Bool.or_eq_true] at h ⊢
  refine h.imp_right fun hlookup => ?_
  obtain ⟨r, hr⟩ := Option.isSome_iff_exists.mp hlookup
  rw [Progress.lookup_mono hprefix hr, Option.isSome_some]

/-- Compiling an accessor gives what it stands for. -/
theorem Site.Sound.compile {inv : Progress → Prop} {site : Site} (h : site.Sound m inv)
    (a : Accessor) :
    Meets inv (fun _ => True) (site.compile a)
      (fun r done => r.Means (done.apply m) site.owner.name a) := by
  have declared (t : TypeRef) (hint : Option Source.Term) :
      Meets inv (fun _ => True) (site.declaredType t hint) (fun u _ => u = t ∨ u = t.orNull) := by
    cases hint with
    | none => exact .pure fun _ _ => .inl rfl
    | some hint =>
      refine .lift_bind fun u _ => ?_
      split
      next hu => exact .pure fun _ _ => hu
      · exact .fail _
  refine .bind (h.emit a.expression) fun r => ?_
  split
  · exact .fail _
  next e t =>
    refine .bind ((declared t a.returns).keeping (elaborates_lasting h.fresh _ _ _ _)) fun u =>
      .pure fun done hu => ⟨t, hu.2, hu.1, ?_⟩
    have hproper : t.isProper = true := hu.2.wellTyped.isProper
    rcases hu.1 with rfl | rfl
    · exact hproper
    · rw [TypeRef.isProper_orNull, hproper]

/-- A computed property of which there is nothing to compile is compiled. -/
theorem lookup_of_isDone (hp : p.Fresh) (hcomputed : p.computed = true)
    (h : isDone done c p = true) : ∃ r, done.lookup (c.name, p.name) = some r := by
  simp only [isDone, hcomputed, hp.untouched] at h
  exact Option.isSome_iff_exists.mp (by simpa using h)

/-- Where everything is compiled, a computed property is settled by an entry of the progress. -/
theorem exists_entry (hm : m.Fresh)
    (hdone : ∀ c ∈ m.classes, ∀ p ∈ c.computedProperties, isDone done c p = true)
    (hc : c ∈ (done.apply m).classes) (hp : p ∈ c.computedProperties) :
    ∃ d ∈ m.classes, ∃ q ∈ d.properties, ∃ r, c = done.settleClass d ∧
      done.lookup (d.name, q.name) = some r ∧
      p = { q with type := r.type, expression := r.expression } := by
  obtain ⟨d, hd, rfl⟩ := List.mem_map.mp hc
  obtain ⟨hp, hcomputed⟩ := List.mem_filter.mp hp
  obtain ⟨q, hq, rfl⟩ := List.mem_map.mp hp
  rw [Progress.settle_isComputed] at hcomputed
  have hfresh := hm.properties d hd q hq
  obtain ⟨r, hr⟩ := lookup_of_isDone hfresh hcomputed
    (hdone d hd q (List.mem_filter.mpr ⟨hq, hcomputed⟩))
  exact ⟨d, hd, q, hq, r, rfl, hr, Progress.settle_computed hfresh hcomputed hr⟩

/-- A property of which there is nothing to compile has the type that the progress gives it. -/
theorem hasMember_of_isDone (hm : m.Fresh) {receiver owner : ClassDecl} {name : String}
    (hsound : done.Sound m) (hreceiver : receiver ∈ m.classes)
    (howner : m.owner? receiver name = some owner) (hp : owner.property? name = some p)
    (hdone : isDone done owner p = true) :
    (done.apply m).HasMember receiver.name name (done.typeOf owner p) := by
  have howned := Manifest.mem_of_owner? hreceiver howner
  have hfresh := hm.properties owner howned p (ClassDecl.mem_of_property? hp)
  refine Progress.hasMember_apply.mpr ⟨receiver, owner, p,
    Manifest.class?_eq_some hm.names hreceiver, howner, hp, Progress.settle_type hfresh, ?_⟩
  cases hcomputed : p.computed with
  | false =>
    have hproper := hfresh.field hcomputed
    unfold Progress.typeOf
    split
    next htype => exact absurd htype (TypeRef.ne_unresolved hproper)
    · exact hproper
  | true =>
    obtain ⟨r, hr⟩ := lookup_of_isDone hfresh hcomputed hdone
    obtain ⟨a, -, t, -, -, hproper⟩ := hsound owner howned p (ClassDecl.mem_of_property? hp) r hr
    simpa [Progress.typeOf, hfresh.untyped hcomputed, hcomputed, hr] using hproper

/-- Classes are told apart by their names, and so are the properties of a class. -/
theorem key_inj (hm : m.Fresh) {d : ClassDecl} {q : PropertyDecl} (hc : c ∈ m.classes)
    (hd : d ∈ m.classes) (hp : p ∈ c.properties) (hq : q ∈ d.properties)
    (h : (c.name, p.name) = (d.name, q.name)) : c = d ∧ p = q := by
  obtain ⟨hname, hpname⟩ := Prod.mk.inj h
  obtain rfl := List.inj_on_of_nodup_map hm.names hc hd hname
  exact ⟨rfl, List.inj_on_of_nodup_map (hm.propertyNames c hc) hp hq hpname⟩

/-- What an accessor stands for may be added to the progress. -/
theorem Progress.Sound.add (hm : m.Fresh) {a : Accessor} {r : Compiled} (h : done.Sound m)
    (hc : c ∈ m.classes) (hp : p ∈ c.properties) (ha : p.accessor = some a)
    (hr : r.Means (done.apply m) c.name a) :
    Progress.Sound m (done ++ [((c.name, p.name), r)]) := by
  intro d hd q hq s hs
  rcases Progress.lookup_concat.mp hs with hs | ⟨-, hkey, rfl⟩
  · obtain ⟨b, hb, hmeans⟩ := h d hd q hq s hs
    exact ⟨b, hb, means_lasting hm _ _ _ _ _ (List.prefix_append _ _) hmeans⟩
  · obtain ⟨rfl, rfl⟩ := key_inj hm hd hc hq hp hkey
    exact ⟨a, ha, means_lasting hm _ _ _ _ _ (List.prefix_append _ _) hr⟩

/-- The site of an accessor is sound where the properties that it reads are compiled soundly. -/
theorem site_sound (hm : m.Fresh) {ensure : ClassDecl → PropertyDecl → Compile Unit}
    (hensure : ∀ c ∈ m.classes, ∀ p ∈ c.properties,
      Meets (Progress.Sound m) (fun _ => True) (ensure c p) (fun _ done => isDone done c p = true))
    (hc : c ∈ m.classes) (name : String) :
    Site.Sound m (Progress.Sound m) ⟨⟨m, m⟩, c, name, typeAfter ensure⟩ := by
  refine ⟨hm, hc, rfl, fun receiver hreceiver path name => ?_⟩
  unfold Site.memberType
  split
  · exact .fail _
  next owner howner =>
  split
  · exact .fail _
  next p hp =>
  have howned := Manifest.mem_of_owner? hreceiver howner
  have hmem := ClassDecl.mem_of_property? hp
  have read : Meets (Progress.Sound m) (fun done => isDone done owner p = true)
      (do return (← get).typeOf owner p)
      (fun t done => (done.apply m).HasMember receiver.name name t) := by
    refine .knowing (.bind .get fun seen => .pure ?_)
    rintro done ⟨rfl, hsound, hdone⟩
    exact hasMember_of_isDone hm hsound hreceiver howner hp hdone
  simp only [typeAfter]
  split
  · exact .bind (hensure owner howned p hmem) fun _ => read
  next hcompiled =>
    refine read.assuming fun done _ => ?_
    have hfresh := hm.properties owner howned p hmem
    have hcomputed : p.computed = false := by
      cases h : p.computed with
      | false => rfl
      | true => simp [h, hfresh.untyped h] at hcompiled
    simp [isDone, hcomputed]

/-- Compiling a property compiles it soundly, with those that it reads. -/
theorem ensureWith_sound (hm : m.Fresh) (fuel : Nat) (active : List Key) (hc : c ∈ m.classes)
    (hp : p ∈ c.properties) :
    Meets (Progress.Sound m) (fun _ => True) (ensureWith ⟨m, m⟩ fuel active c p)
      (fun _ done => isDone done c p = true) := by
  induction fuel generalizing active c p with
  | zero => exact .throw _
  | succ fuel ih =>
    unfold ensureWith
    refine .bind .get fun seen => ?_
    split
    next hdone =>
      refine .pure ?_
      rintro done ⟨rfl, -⟩
      exact hdone
    dsimp only
    split
    · exact .throw_bind _
    split
    · exact .throw _
    next a ha =>
      have hsite := site_sound hm (fun d hd q hq => ih ((c.name, p.name) :: active) hd hq) hc p.name
      refine .bind ((hsite.compile a).assuming fun _ _ => trivial) fun r => .add ?_
      intro done hsound hr
      refine ⟨hsound.add hm hc hp ha hr, ?_⟩
      simp [isDone, List.lookup_append]

theorem ensure_sound (hm : m.Fresh) (hc : c ∈ m.classes) (hp : p ∈ c.properties) :
    Meets (Progress.Sound m) (fun _ => True) (ensure ⟨m, m⟩ c p)
      (fun _ done => isDone done c p = true) :=
  ensureWith_sound hm _ _ hc hp

/-- `Leads m start done`: compiling some properties, in any order and some of them perhaps without
success, leads from one progress to the other. -/
inductive Leads (m : Manifest) (start : Progress) : Progress → Prop
  | refl : Leads m start start
  | step {done : Progress} {c : ClassDecl} {p : PropertyDecl} (before : Leads m start done)
      (hc : c ∈ m.classes) (hp : p ∈ c.properties) :
      Leads m start ((ensure ⟨m, m⟩ c p).outcome done).2

theorem Progress.sound_nil (m : Manifest) : Progress.Sound m [] :=
  fun _ _ _ _ _ hr => by simp at hr

/-- Soundness lasts, and so does whatever is compiled. -/
theorem Leads.sound (hm : m.Fresh) {start : Progress} (hstart : start.Sound m)
    (h : Leads m start done) : done.Sound m ∧ start <+: done := by
  induction h with
  | refl => exact ⟨hstart, List.prefix_rfl⟩
  | step _ hc hp ih =>
    obtain ⟨hsound, hprefix, -⟩ := ensure_sound hm hc hp _ ih.1 trivial
    exact ⟨hsound, ih.2.trans hprefix⟩

/-- A property that is accepted keeps what its accessor stands for while more is compiled. -/
theorem accepted_means (hm : m.Fresh) {before : Progress} (hbefore : Leads m [] before)
    (hc : c ∈ m.classes) (hp : p ∈ c.computedProperties) {a : Accessor}
    (ha : p.accessor = some a) (haccepted : (ensure ⟨m, m⟩ c p).outcome before = (.ok (), after))
    (hafter : Leads m after done) :
    ∃ r : Compiled, done.settle c p = { p with type := r.type, expression := r.expression } ∧
      r.Means (done.apply m) c.name a := by
  have hmem := List.mem_of_mem_filter hp
  have hcomputed : p.computed = true := by simpa using List.of_mem_filter hp
  have hfresh := hm.properties c hc p hmem
  have hsound := (hbefore.sound hm (Progress.sound_nil m)).1
  obtain ⟨hsound, -, hdone⟩ := ensure_sound hm hc hmem before hsound trivial
  rw [haccepted] at hsound hdone
  obtain ⟨hsound, hprefix⟩ := hafter.sound hm hsound
  obtain ⟨r, hr⟩ := lookup_of_isDone hfresh hcomputed (hdone () rfl)
  have hlookup := Progress.lookup_mono hprefix hr
  obtain ⟨b, hb, hmeans⟩ := hsound c hc p hmem r hlookup
  obtain rfl := Option.some.inj (ha.symm.trans hb)
  exact ⟨r, Progress.settle_computed hfresh hcomputed hlookup, hmeans⟩

/-- After all has been compiled there is nothing left to compile, and all is sound. -/
theorem compileAll_sound (hm : m.Fresh) :
    Meets (Progress.Sound m) (fun _ => True) (compileAll ⟨m, m⟩)
      (fun _ done => ∀ c ∈ m.classes, ∀ p ∈ c.computedProperties, isDone done c p = true) := by
  refine .forM (fun c hc => .forM (fun p hp => ?_) (isDone_lasting c)) fun c => ?_
  · exact ensure_sound hm hc (List.mem_of_mem_filter hp)
  · exact fun done after hprefix h p hp => isDone_lasting c p done after hprefix (h p hp)

end Accessor

namespace Manifest

open Accessor

variable {m m' : Manifest}

/-- A manifest that is compiled is the build with what compiling all leaves. -/
theorem compile_outcome (h : m.compile = .ok m') :
    ∃ done, (compileAll ⟨m, m⟩).outcome [] = (.ok (), done) ∧ m' = done.apply m := by
  have hrun : m.compile = match ((compileAll ⟨m, m⟩).outcome []) with
      | (.ok (), done) => .ok (done.apply m)
      | (.error e, _) => .error e := by
    unfold compile
    cases h : (compileAll ⟨m, m⟩).outcome [] with
    | mk r done =>
      rw [Compile.outcome] at h
      rw [h]
      cases r <;> rfl
  rw [hrun] at h
  cases hout : (compileAll ⟨m, m⟩).outcome [] with
  | mk r done =>
    rw [hout] at h
    cases r with
    | error e => cases h
    | ok a => exact ⟨done, rfl, (Except.ok.inj h).symm⟩

/-- A manifest that is compiled has for every computed property what its accessor stands for. -/
theorem compile_eq_ok (hm : m.Fresh) (h : m.compile = .ok m') :
    ∃ done : Progress, m' = done.apply m ∧ done.Sound m ∧
      ∀ c ∈ m.classes, ∀ p ∈ c.computedProperties, isDone done c p = true := by
  obtain ⟨hsound, -, hdone⟩ := compileAll_sound hm [] (Progress.sound_nil m) trivial
  obtain ⟨done, hout, rfl⟩ := compile_outcome h
  rw [hout] at hsound hdone
  exact ⟨done, rfl, hsound, hdone () rfl⟩

/-- Every computed property of a manifest that is compiled is what its accessor stands for. -/
theorem compiled_means (hm : m.Fresh) (h : m.compile = .ok m') {d : ClassDecl}
    {p : PropertyDecl} (hd : d ∈ m'.classes) (hp : p ∈ d.computedProperties) :
    ∃ a t, p.accessor = some a ∧ Elaborates m' d.name a.expression p.expression (.known t) ∧
      (p.type = t ∨ p.type = t.orNull) := by
  obtain ⟨done, rfl, hsound, hdone⟩ := compile_eq_ok hm h
  obtain ⟨c, hc, q, hq, r, rfl, hr, rfl⟩ := exists_entry hm hdone hd hp
  obtain ⟨a, ha, t, helaborates, ht, -⟩ := hsound c hc q hq r hr
  exact ⟨a, t, ha, helaborates, ht⟩

end Manifest

end ViewModel
