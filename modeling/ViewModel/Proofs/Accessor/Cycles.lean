import Mathlib.Logic.Relation
import ViewModel.Proofs.Accessor.Independence
import ViewModel.Proofs.Accessor.Uses

/-!
Computed properties never depend on themselves. What an accessor reads is compiled before it, so
the order in which properties are compiled is one in which each comes after those that it reads.
-/

namespace ViewModel

open Source (Declaration)

namespace Accessor

variable {m : Manifest} {c : String} {done pre : Progress}

/-! What is built is what it stands for, where only the entries before it are compiled. -/

theorem known_sound (hm : m.Fresh) {owner : ClassDecl} (howner : owner ∈ m.classes)
    (h : done.Sound m) (name : String) :
    Site.Sound m (fun s => s = done) (siteOf m owner name (known done)) := by
  refine ⟨hm, howner, rfl, fun receiver hreceiver path name => ?_⟩
  unfold Site.memberType
  split
  · exact .fail _
  next d hd =>
  split
  · exact .fail _
  next q hq =>
  dsimp only [known]
  split
  next hdone =>
    refine Meets.knowing (.pure ?_)
    rintro s ⟨rfl, -⟩
    exact hasMember_of_isDone hm h hreceiver hd hq hdone
  · exact .throw _

theorem means_of_known (hm : m.Fresh) {owner : ClassDecl} (howner : owner ∈ m.classes)
    (h : done.Sound m) {name : String} {a : Accessor} {r : Compiled}
    (hr : (siteOf m owner name (known done)).compile a = pure r) :
    r.Means (done.apply m) owner.name a := by
  obtain ⟨-, -, hmeans⟩ := (known_sound hm howner h name).compile a done rfl trivial
  rw [hr] at hmeans
  exact hmeans r rfl

theorem Built.sound (hm : m.Fresh) (h : Built m done) : done.Sound m := by
  induction h with
  | nil => exact Progress.sound_nil m
  | add _ hc hp _ ha hr ih =>
    exact ih.add hm hc (List.mem_of_mem_filter hp) ha (means_of_known hm hc ih hr)

/-- An entry is what its accessor compiles to among the entries before it. -/
theorem Built.entry (h : Built m done) {key : Key} {r : Compiled} (hr : done.lookup key = some r) :
    ∃ pre : Progress, pre ++ [(key, r)] <+: done ∧ pre.lookup key = none ∧
      ∃ d ∈ m.classes, ∃ p ∈ d.computedProperties, key = (d.name, p.name) ∧
        ∃ a, p.accessor = some a ∧ (siteOf m d p.name (known pre)).compile a = pure r := by
  induction h with
  | nil => simp at hr
  | @add before d p a r' _ hd hp hnew ha hcompiled ih =>
    rcases Progress.lookup_concat.mp hr with hr | ⟨-, rfl, rfl⟩
    · obtain ⟨pre, hpre, hentry⟩ := ih hr
      exact ⟨pre, hpre.trans (List.prefix_append _ _), hentry⟩
    · exact ⟨before, List.prefix_rfl, hnew, d, hd, p, hp, rfl, a, ha, hcompiled⟩

theorem Built.accepted (hm : m.Fresh) (h : Built m done) {d : ClassDecl} {p : PropertyDecl}
    (hd : d ∈ m.classes) (hp : p ∈ d.properties) {r : Compiled}
    (hr : done.lookup (d.name, p.name) = some r) : ∃ pre a, p.accessor = some a ∧
      (siteOf m d p.name (known pre)).compile a = pure r := by
  obtain ⟨pre, -, -, e, he, q, hq, hkey, a, ha, hcompiled⟩ := h.entry hr
  obtain ⟨rfl, rfl⟩ := key_inj hm hd he hp (List.mem_of_mem_filter hq) hkey
  exact ⟨pre, a, ha, hcompiled⟩

namespace Progress

/-- How many entries come before the one of a property. -/
def rank (done : Progress) (key : Key) : Nat := done.findIdx fun entry => entry.1 == key

theorem rank_lt {key : Key} {r : Compiled} (hpre : pre <+: done) (h : pre.lookup key = some r) :
    done.rank key < pre.length := by
  obtain ⟨more, rfl⟩ := hpre
  obtain ⟨before, after, rfl, -⟩ := List.lookup_eq_some_iff.mp h
  rw [rank, List.findIdx_append, if_pos]
  · exact List.findIdx_lt_length.mpr ⟨(key, r), by simp, by simp⟩
  · exact List.findIdx_lt_length.mpr ⟨(key, r), by simp, by simp⟩

theorem le_rank {key : Key} (hpre : pre <+: done) (h : pre.lookup key = none) :
    pre.length ≤ done.rank key := by
  obtain ⟨more, rfl⟩ := hpre
  rw [rank, List.findIdx_append, if_neg]
  · exact Nat.le_add_left _ _
  · rw [List.findIdx_lt_length]
    rintro ⟨entry, hentry, hkey⟩
    have hne := List.lookup_eq_none_iff.mp h entry hentry
    simp_all

end Progress

/-- What the classes with what is compiled find, the classes of the build find. -/
theorem resolves_apply {name : String} {d owner : ClassDecl} {q : PropertyDecl}
    (hd : (done.apply m).class? c = some d) (howner : (done.apply m).owner? d name = some owner)
    (hq : owner.property? name = some q) :
    ∃ d₀ owner₀ q₀, m.class? c = some d₀ ∧ m.owner? d₀ name = some owner₀ ∧
      owner₀.property? name = some q₀ ∧ owner = done.settleClass owner₀ ∧
      q = done.settle owner₀ q₀ := by
  rw [Progress.class?_apply, Option.map_eq_some_iff] at hd
  obtain ⟨d₀, hd₀, rfl⟩ := hd
  rw [Progress.owner?_apply, Option.map_eq_some_iff] at howner
  obtain ⟨owner₀, howner₀, rfl⟩ := howner
  rw [Progress.property?_settleClass, Option.map_eq_some_iff] at hq
  obtain ⟨q₀, hq₀, rfl⟩ := hq
  exact ⟨d₀, owner₀, q₀, hd₀, howner₀, hq₀, rfl, rfl⟩

/-- A member that has a type among the first entries keeps it, and is one of them if it is
computed. -/
theorem member_before (hm : m.Fresh) (hpre : pre <+: done) {name : String} {d owner : ClassDecl}
    {q : PropertyDecl} {u : TypeRef} (hd : (done.apply m).class? c = some d)
    (howner : (done.apply m).owner? d name = some owner) (hq : owner.property? name = some q)
    (h : (pre.apply m).HasMember c name u) :
    q.type = u ∧ (q.computed = true → ∃ r, pre.lookup (owner.name, q.name) = some r) := by
  obtain ⟨d₀, owner₀, q₀, hd₀, howner₀, hq₀, rfl, rfl⟩ := resolves_apply hd howner hq
  obtain ⟨d₁, owner₁, q₁, hd₁, howner₁, hq₁, htype, hproper⟩ := Progress.hasMember_apply.mp h
  obtain rfl := Option.some.inj (hd₀.symm.trans hd₁)
  obtain rfl := Option.some.inj (howner₀.symm.trans howner₁)
  obtain rfl := Option.some.inj (hq₀.symm.trans hq₁)
  have hmem := Manifest.mem_of_owner? (Manifest.mem_of_class? hd₀) howner₀
  have hfresh := hm.properties _ hmem _ (ClassDecl.mem_of_property? hq₀)
  rw [Progress.settle_type hfresh] at htype ⊢
  have hresolved : pre.typeOf owner₀ q₀ ≠ .unresolved := htype ▸ TypeRef.ne_unresolved hproper
  refine ⟨(Progress.typeOf_mono hpre hresolved).trans htype, fun hcomputed => ?_⟩
  rw [Progress.settle_isComputed] at hcomputed
  rw [Progress.settle_name, Progress.settleClass_name]
  exact Progress.lookup_of_typeOf hfresh hcomputed hresolved

/-- A path that has a type among the first entries names properties of those entries only. -/
theorem lookup_of_pathNames (hm : m.Fresh) (hpre : pre <+: done) {path : List String} {key : Key}
    (h : (done.apply m).PathNames (fun _ p => p.type) c path key) {i : Nat} {t u : TypeRef}
    {nullSafe : List Int} (ht : t.stripNull = .reference c)
    (hpath : PathType (pre.apply m) i t path nullSafe u) : ∃ r, pre.lookup key = some r := by
  have head {i : Nat} {t : TypeRef} {c name : String} {rest : List String} {nullSafe : List Int}
      (ht : t.stripNull = .reference c)
      (hpath : PathType (pre.apply m) i t (name :: rest) nullSafe u) :
      ∃ v nullSafe', (pre.apply m).HasMember c name v ∧
        PathType (pre.apply m) (i + 1) v rest nullSafe' u := by
    cases hpath with
    | strict member hrest | safe member hrest =>
      obtain rfl := TypeRef.reference.inj ht
      exact ⟨_, _, member, hrest⟩
  induction h generalizing i t nullSafe with
  | here hd howner hq hcomputed =>
    obtain ⟨v, _, member, -⟩ := head ht hpath
    exact (member_before hm hpre hd howner hq member).2 hcomputed
  | there hd howner hq htype _ ih =>
    obtain ⟨v, _, member, hrest⟩ := head ht hpath
    exact ih ((member_before hm hpre hd howner hq member).1 ▸ htype) hrest

/-- What an entry reads comes before it. -/
theorem rank_lt_of_uses (hm : m.Fresh) (hbuilt : Built m done)
    (hdone : ∀ c ∈ m.classes, ∀ p ∈ c.computedProperties, isDone done c p = true) {key key' : Key}
    (h : (done.apply m).Uses (fun _ p => p.type) (fun p => p.expression.paths) key key') :
    done.rank key' < done.rank key := by
  obtain ⟨d', hd', p', hp', rfl, path, hpath, hnames⟩ := h
  obtain ⟨d, hd, p, hp, r, rfl, hr, rfl⟩ := exists_entry hm hdone hd' hp'
  rw [Progress.settleClass_name] at hnames ⊢
  obtain ⟨pre, hpre, hnone, e, he, q, hq, hkey, a, ha, hcompiled⟩ := hbuilt.entry hr
  obtain ⟨rfl, rfl⟩ := key_inj hm hd he hp (List.mem_of_mem_filter hq) hkey
  have hbefore : pre <+: done := (List.prefix_append _ _).trans hpre
  obtain ⟨u, hmeans, -⟩ := means_of_known hm hd ((hbuilt.of_initial hbefore).sound hm) hcompiled
  obtain ⟨nullSafe, v, htype⟩ := hmeans.wellTyped.pathType hpath
  obtain ⟨r', hr'⟩ := lookup_of_pathNames hm hbefore hnames rfl htype
  exact Nat.lt_of_lt_of_le (Progress.rank_lt hbefore hr') (Progress.le_rank hbefore hnone)

/-- The type that a property has once it is compiled before all others. -/
def firstType (m : Manifest) (c : ClassDecl) (p : PropertyDecl) : TypeRef :=
  ((ensure ⟨m, m⟩ c p).outcome []).2.typeOf c p

/-- What is compiled has the type that compiling it first gives. -/
theorem typeOf_firstType (hm : m.Fresh) (hbuilt : Built m done) {d : ClassDecl} {q : PropertyDecl}
    (hd : d ∈ m.classes) (hq : q ∈ d.properties) (hdone : isDone done d q = true) :
    done.typeOf d q = firstType m d q := by
  have hfresh := hm.properties d hd q hq
  rw [firstType]
  cases hcomputed : q.computed with
  | false => exact typeOf_field hcomputed
  | true =>
    obtain ⟨r, hr⟩ := lookup_of_isDone hfresh hcomputed hdone
    obtain ⟨first, hout, -, hfirst⟩ := hbuilt.reproduces hm hd hq hcomputed hr (.refl done)
      (.start m) (by simp) (.nil done)
    rw [ensure, hout, typeOf_computed hfresh hcomputed hr,
      typeOf_computed hfresh hcomputed hfirst]

/-- Where all is compiled, a property has the type that compiling it first gives. -/
theorem settle_firstType (hm : m.Fresh) (hbuilt : Built m done)
    (hdone : ∀ c ∈ m.classes, ∀ p ∈ c.computedProperties, isDone done c p = true) {d : ClassDecl}
    {q : PropertyDecl} (hd : d ∈ m.classes) (hq : q ∈ d.properties) :
    (done.settle d q).type = firstType m d q := by
  have hfresh := hm.properties d hd q hq
  rw [Progress.settle_type hfresh]
  refine typeOf_firstType hm hbuilt hd hq ?_
  cases hcomputed : q.computed with
  | false => exact (isDone_eq_true hfresh).mpr (.inl hcomputed)
  | true => exact hdone d hd q (List.mem_filter.mpr ⟨hq, hcomputed⟩)

theorem pathNames_settled {type : ClassDecl → PropertyDecl → TypeRef}
    (htype : ∀ d ∈ m.classes, ∀ q ∈ d.properties, (done.settle d q).type = type d q)
    {path : List String} {key : Key} (h : m.PathNames type c path key) :
    (done.apply m).PathNames (fun _ p => p.type) c path key := by
  have resolved {c name : String} {d owner : ClassDecl} {q : PropertyDecl}
      (hd : m.class? c = some d) (howner : m.owner? d name = some owner)
      (hq : owner.property? name = some q) :
      (done.apply m).class? c = some (done.settleClass d) ∧
        (done.apply m).owner? (done.settleClass d) name = some (done.settleClass owner) ∧
        (done.settleClass owner).property? name = some (done.settle owner q) := by
    rw [Progress.class?_apply, Progress.owner?_apply, Progress.property?_settleClass, hd, howner,
      hq]
    exact ⟨rfl, rfl, rfl⟩
  induction h with
  | @here _ _ _ _ owner q hd howner hq hcomputed =>
    obtain ⟨hd', howner', hq'⟩ := resolved hd howner hq
    have hkey : ((done.settleClass owner).name, (done.settle owner q).name) =
        (owner.name, q.name) := by simp
    exact hkey ▸ .here hd' howner' hq' (by simpa using hcomputed)
  | @there _ _ _ _ _ owner q _ hd howner hq hleaf _ ih =>
    obtain ⟨hd', howner', hq'⟩ := resolved hd howner hq
    have howned := Manifest.mem_of_owner? (Manifest.mem_of_class? hd) howner
    have hsettled := htype owner howned q (ClassDecl.mem_of_property? hq)
    exact .there hd' howner' hq' ((congrArg TypeRef.stripNull hsettled).trans hleaf) ih

/-- Where all is compiled, every accessor is compiled with all of its paths. -/
theorem uses_settled (hm : m.Fresh) (hbuilt : Built m done)
    (hdone : ∀ c ∈ m.classes, ∀ p ∈ c.computedProperties, isDone done c p = true) {key key' : Key}
    (h : m.Uses (firstType m) accessorPaths key key') :
    (done.apply m).Uses (fun _ p => p.type) (fun p => p.expression.paths) key key' := by
  obtain ⟨d, hd, p, hp, rfl, path, hpath, hnames⟩ := h
  obtain ⟨hmem, hcomputed⟩ := List.mem_filter.mp hp
  have hfresh := hm.properties d hd p hmem
  obtain ⟨r, hr⟩ := lookup_of_isDone hfresh hcomputed (hdone d hd p hp)
  obtain ⟨a, ha, u, hmeans, -⟩ := hbuilt.sound hm d hd p hmem r hr
  have hsettle := Progress.settle_computed hfresh hcomputed hr
  refine ⟨done.settleClass d, List.mem_map_of_mem hd, done.settle d p, ?_, by simp, path, ?_,
    pathNames_settled (fun d hd q hq => settle_firstType hm hbuilt hdone hd hq) hnames⟩
  · exact List.mem_filter.mpr ⟨List.mem_map_of_mem hmem, by simpa using hcomputed⟩
  · rw [accessorPaths, ha] at hpath
    rw [hsettle]
    exact hmeans.paths hpath

end Accessor

namespace Manifest

open Accessor

variable {m m' : Manifest}

theorem compile_built (hm : m.Fresh) (h : m.compile = .ok m') :
    ∃ done : Progress, m' = done.apply m ∧ Built m done ∧
      ∀ c ∈ m.classes, ∀ p ∈ c.computedProperties, isDone done c p = true := by
  have htask : Task.everything.Within m := trivial
  have hbuilt := (Task.run_built hm htask [] ⟨.nil, by simp⟩ trivial).1
  obtain ⟨-, -, hdone⟩ := compileAll_sound hm [] (Progress.sound_nil m) trivial
  obtain ⟨done, hout, rfl⟩ := compile_outcome h
  rw [Task.run, hout] at hbuilt
  rw [hout] at hdone
  exact ⟨done, rfl, hbuilt.built, hdone () rfl⟩

/-- Compiling all properties goes no deeper than there are computed properties; what comes of it has
no cycle of properties that read each other; and where the accessors have such a cycle, it fails. -/
theorem compile_acyclic {all : List Declaration} (hm : Resolve.manifest all = .ok m) :
    (∀ bottom depth, m.summary.computed < depth →
      compileAllDown ⟨m, m⟩ bottom depth = compileAll ⟨m, m⟩) ∧
    (∀ m', m.compile = .ok m' → ∀ key,
      ¬Relation.TransGen (m'.Uses (fun _ p => p.type) fun p => p.expression.paths) key key) ∧
    ∀ key, Relation.TransGen (m.Uses (firstType m) accessorPaths) key key →
      ∃ e, m.compile = .error e := by
  have hfresh := Resolve.manifest_fresh hm
  have hacyclic (m' : Manifest) (h : m.compile = .ok m') (key : Key) :
      ¬Relation.TransGen (m'.Uses (fun _ p => p.type) fun p => p.expression.paths) key key := by
    obtain ⟨done, rfl, hbuilt, hdone⟩ := compile_built hfresh h
    intro hcycle
    have hfalls := hcycle.lift (p := (· > ·)) done.rank fun _ _ =>
      rank_lt_of_uses hfresh hbuilt hdone
    rw [Relation.transGen_eq_self] at hfalls
    exact Nat.lt_irrefl _ hfalls
  refine ⟨fun bottom depth => compileAllDown_eq bottom, hacyclic, fun key hcycle => ?_⟩
  cases hcompile : m.compile with
  | error e => exact ⟨e, rfl⟩
  | ok m' =>
    obtain ⟨done, rfl, hbuilt, hdone⟩ := compile_built hfresh hcompile
    have hsettled := Relation.TransGen.mono (fun _ _ => uses_settled hfresh hbuilt hdone) _ _ hcycle
    exact absurd hsettled (hacyclic _ hcompile key)

end Manifest

namespace Sample

open Accessor

theorem circle_names {q : PropertyDecl} (hq : circleClass.property? q.name = some q)
    (hcomputed : q.computed = true)
    (howner : circular.owner? circleClass q.name = some circleClass) :
    circular.PathNames (firstType circular) "Circle" [q.name] ("Circle", q.name) :=
  .here (d := circleClass) rfl howner hq hcomputed

theorem near_uses_far :
    circular.Uses (firstType circular) accessorPaths ("Circle", "near") ("Circle", "far") :=
  ⟨circleClass, List.mem_singleton_self _, near, List.mem_cons_self, rfl, ["far"],
    List.mem_singleton_self _, circle_names (q := far) rfl rfl rfl⟩

theorem far_uses_near :
    circular.Uses (firstType circular) accessorPaths ("Circle", "far") ("Circle", "near") :=
  ⟨circleClass, List.mem_singleton_self _, far, List.mem_cons_of_mem _ List.mem_cons_self, rfl,
    ["near"], List.mem_singleton_self _, circle_names (q := near) rfl rfl rfl⟩

end Sample

/-- Two accessors that read each other are not compiled. -/
theorem Manifest.compile_acyclic_circular : ∃ e, Sample.circular.compile = .error e :=
  (Manifest.compile_acyclic Sample.circular_eq).2.2 ("Circle", "near")
    (.tail (.single Sample.near_uses_far) Sample.far_uses_near)

end ViewModel
