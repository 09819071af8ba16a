import Mathlib.Data.List.Find
import ViewModel.Proofs.Accessor.Accepts
import ViewModel.Proofs.Accessor.Rearranged

/-!
One more accessor in a manifest. Where nothing else has its name it changes no other property: the
manifest compiles as it did before, and the new property to what its accessor stands for.
-/

namespace ViewModel

open Accessor

namespace ClassDecl

/-- The class with one more property, if it is the one of this name. -/
def withProperty (c : String) (p : PropertyDecl) (d : ClassDecl) : ClassDecl :=
  if d.name = c then { d with properties := d.properties ++ [p] } else d

variable {c name : String} {p q : PropertyDecl} {d : ClassDecl}

@[simp] theorem withProperty_name : (d.withProperty c p).name = d.name := by
  unfold withProperty
  split <;> rfl

@[simp] theorem withProperty_parent : (d.withProperty c p).parent = d.parent := by
  unfold withProperty
  split <;> rfl

theorem mem_withProperty : q ∈ (d.withProperty c p).properties ↔
    q ∈ d.properties ∨ d.name = c ∧ q = p := by
  unfold withProperty
  split
  next h => simp [h]
  next h => simp [h]

/-- Every property is found as before, unless the new one may be meant. -/
theorem property?_withProperty (h : name ≠ p.name ∨ d.name ≠ c) :
    (d.withProperty c p).property? name = d.property? name := by
  unfold withProperty
  split
  next hc =>
    have hp : (p.name == name) = false := by
      have hname : name ≠ p.name := h.resolve_right fun hne => hne hc
      simpa using hname.symm
    simp [property?, List.find?_append, hp]
  · rfl

end ClassDecl

namespace Manifest

/-- The manifest with one more property in a class. -/
def withProperty (m : Manifest) (c : String) (p : PropertyDecl) : Manifest :=
  ⟨m.classes.map (ClassDecl.withProperty c p)⟩

/-- No class that is of this name or descends from it has a property `name`, its own or inherited. -/
def IsNew (m : Manifest) (c name : String) : Prop :=
  ∀ d ∈ m.classes, ∀ e ∈ m.lineage d, e.name = c → ¬m.Declares d name

instance (m : Manifest) (d : ClassDecl) (name : String) : Decidable (m.Declares d name) :=
  inferInstanceAs (Decidable (∃ owner ∈ m.lineage d, ∃ p ∈ owner.properties, p.name = name))

instance (m : Manifest) (c name : String) : Decidable (m.IsNew c name) :=
  inferInstanceAs (Decidable (∀ d ∈ m.classes, ∀ e ∈ m.lineage d, e.name = c → ¬m.Declares d name))

variable {m : Manifest} {c name : String} {p : PropertyDecl} {d : ClassDecl} {t : TypeRef}

@[simp] theorem names_withProperty : (m.withProperty c p).names = m.names := by
  simp [names, withProperty, Function.comp_def]

theorem class?_withProperty (name : String) :
    (m.withProperty c p).class? name = (m.class? name).map (ClassDecl.withProperty c p) := by
  simp only [class?, withProperty, List.find?_map, Function.comp_def, ClassDecl.withProperty_name]

theorem ancestry_withProperty (n : Nat) :
    (m.withProperty c p).ancestry n (d.withProperty c p) =
      (m.ancestry n d).map (ClassDecl.withProperty c p) := by
  have parent (d : ClassDecl) : (m.withProperty c p).parent? (d.withProperty c p) =
      (m.parent? d).map (ClassDecl.withProperty c p) := by
    rw [parent?, parent?, ClassDecl.withProperty_parent]
    cases d.parent with
    | none => rfl
    | some name => exact class?_withProperty name
  induction n generalizing d with
  | zero => rfl
  | succ n ih =>
    rw [ancestry, ancestry, parent]
    cases m.parent? d with
    | none => rfl
    | some e => simp [ih]

/-- Owners are found as before, unless the new property may be meant. -/
theorem owner?_withProperty (h : name ≠ p.name ∨ ∀ e ∈ m.lineage d, e.name ≠ c) :
    (m.withProperty c p).owner? (d.withProperty c p) name =
      (m.owner? d name).map (ClassDecl.withProperty c p) := by
  have hlength : (m.withProperty c p).classes.length = m.classes.length := List.length_map _
  have hlineage : (m.withProperty c p).lineage (d.withProperty c p) =
      (m.lineage d).map (ClassDecl.withProperty c p) := by
    rw [lineage, hlength, ancestry_withProperty, lineage]
  rw [owner?, owner?, hlineage, List.find?_map]
  congr 1
  refine List.find?_congr fun e he => ?_
  rw [Function.comp_apply, ClassDecl.property?_withProperty (h.imp_right fun hc => hc e he)]

/-- Every member is found as before. -/
theorem HasMember.withProperty {receiver : String} (h : m.HasMember receiver name t)
    (hnew : m.IsNew c p.name) : (m.withProperty c p).HasMember receiver name t := by
  obtain ⟨e, owner, q, he, howner, hq, htype⟩ := h
  have happart : name ≠ p.name ∨ ∀ x ∈ m.lineage e, x.name ≠ c := by
    rw [or_iff_not_imp_left, not_not]
    rintro rfl x hx hc
    exact hnew e (mem_of_class? he) x hx hc (declares_of_owner? howner)
  have howned : owner ∈ m.lineage e := List.mem_of_find?_eq_some howner
  refine ⟨e.withProperty c p, owner.withProperty c p, q, ?_, ?_, ?_, htype⟩
  · rw [class?_withProperty, he, Option.map_some]
  · rw [owner?_withProperty happart, howner, Option.map_some]
  · rw [ClassDecl.property?_withProperty (happart.imp_right fun hc => hc owner howned), hq]

theorem self_mem_lineage (m : Manifest) (d : ClassDecl) : d ∈ m.lineage d := by
  rw [lineage]
  cases m.classes.length with
  | zero => exact List.mem_singleton_self d
  | succ n =>
    rw [ancestry]
    split
    · exact List.mem_cons_self
    · exact List.mem_singleton_self d

/-- The class itself has no property of a name that is new. -/
theorem IsNew.ne (h : m.IsNew c name) (hd : d ∈ m.classes) (hc : d.name = c) {q : PropertyDecl}
    (hq : q ∈ d.properties) : q.name ≠ name := fun hname =>
  h d hd d (m.self_mem_lineage d) hc ⟨d, m.self_mem_lineage d, q, hq, hname⟩

theorem Fresh.withProperty (h : m.Fresh) (hp : p.Fresh) (hnew : m.IsNew c p.name) :
    (m.withProperty c p).Fresh where
  names := by rw [names_withProperty]; exact h.names
  propertyNames e he := by
    obtain ⟨d, hd, rfl⟩ := List.mem_map.mp he
    unfold ClassDecl.withProperty
    split
    next hc =>
      rw [List.map_append, List.map_singleton, List.nodup_append_comm]
      refine List.nodup_cons.mpr ⟨fun hmem => ?_, h.propertyNames d hd⟩
      obtain ⟨q, hq, hname⟩ := List.mem_map.mp hmem
      exact hnew.ne hd hc hq hname
    · exact h.propertyNames d hd
  properties e he q hq := by
    obtain ⟨d, hd, rfl⟩ := List.mem_map.mp he
    rcases ClassDecl.mem_withProperty.mp hq with hq | ⟨-, rfl⟩
    · exact h.properties d hd q hq
    · exact hp

end Manifest

namespace Accessor

/-- A computed property of this name that has yet to be compiled. -/
def property (a : Accessor) (name : String) : PropertyDecl :=
  { name := name, computed := true, accessor := some a }

/-- The property once it is compiled. -/
def settled (a : Accessor) (name : String) (r : Compiled) : PropertyDecl :=
  { a.property name with type := r.type, expression := r.expression }

theorem property_fresh (a : Accessor) (name : String) : (a.property name).Fresh where
  field h := by cases h
  untyped _ := rfl
  untouched := rfl
  accessor _ := rfl

variable {m m' : Manifest} {done : Progress} {c name : String} {d : ClassDecl} {a : Accessor}
  {p : PropertyDecl} {r : Compiled} {t : TypeRef}

theorem settle_congr {d e : ClassDecl} (h : d.name = e.name) (p : PropertyDecl) :
    done.settle d p = done.settle e p := by
  simp [Progress.settle, isDone, h]

theorem apply_withProperty (hd : d.name = c) : done.apply (m.withProperty c p) =
    (done.apply m).withProperty c (done.settle d p) := by
  have hclass (e : ClassDecl) : done.settleClass (e.withProperty c p) =
      (done.settleClass e).withProperty c (done.settle d p) := by
    have hsettle : done.settle (e.withProperty c p) = done.settle e :=
      funext fun q => settle_congr ClassDecl.withProperty_name q
    rw [Progress.settleClass, hsettle]
    by_cases he : e.name = c
    · have hp : done.settle e p = done.settle d p := settle_congr (he.trans hd.symm) p
      simp [ClassDecl.withProperty, Progress.settleClass, he, hp]
    · simp [ClassDecl.withProperty, Progress.settleClass, he]
  simp only [Progress.apply, Manifest.withProperty, List.map_map, Function.comp_def, hclass]

theorem isNew_apply (h : m.IsNew c name) : (done.apply m).IsNew c name := by
  rintro x hx y hy hc ⟨z, hz, q', hq', hname⟩
  obtain ⟨d, hd, rfl⟩ := List.mem_map.mp hx
  rw [Progress.lineage_apply] at hy hz
  obtain ⟨e, he, rfl⟩ := List.mem_map.mp hy
  obtain ⟨owner, howner, rfl⟩ := List.mem_map.mp hz
  obtain ⟨q, hq, rfl⟩ := List.mem_map.mp hq'
  rw [Progress.settle_name] at hname
  exact h d hd e he hc ⟨owner, howner, q, hq, hname⟩

theorem hasMember_withProperty (hnew : m.IsNew c p.name) {receiver segment : String}
    (h : (done.apply m).HasMember receiver segment t) :
    (done.apply (m.withProperty c p)).HasMember receiver segment t := by
  rw [apply_withProperty (d := { name := c }) rfl]
  refine h.withProperty ?_
  rw [Progress.settle_name]
  exact isNew_apply hnew

/-- What is built is built with a new property as well. -/
theorem Built.withProperty (hm : m.Fresh) (hp : p.Fresh) (hnew : m.IsNew c p.name)
    (h : Built m done) : Built (m.withProperty c p) done := by
  induction h with
  | nil => exact .nil
  | @add done e q a r before he hq hfirst ha hr ih =>
    have hM := hm.withProperty (c := c) hp hnew
    have he' : e.withProperty c p ∈ (m.withProperty c p).classes := List.mem_map_of_mem he
    have hq' : q ∈ (e.withProperty c p).computedProperties := by
      obtain ⟨hq, hcomputed⟩ := List.mem_filter.mp hq
      exact List.mem_filter.mpr ⟨ClassDecl.mem_withProperty.mpr (.inl hq), hcomputed⟩
    obtain ⟨t, helaborates, htests, hdeclared⟩ :=
      (compile_eq_pure_iff hm he (before.sound hm)).mp hr
    have hcompiled : (siteOf _ _ q.name (known done)).compile a = pure r :=
      (compile_eq_pure_iff hM he' (ih.sound hM)).mpr ⟨t, by
        rw [ClassDecl.withProperty_name]
        exact helaborates.mono fun _ _ _ => hasMember_withProperty hnew, htests, by
        rwa [Manifest.names_withProperty]⟩
    have hadd := Built.add ih he' hq' (by rwa [ClassDecl.withProperty_name]) ha hcompiled
    rwa [ClassDecl.withProperty_name] at hadd

/-- Where everything is built, compiling succeeds and gives what is built. -/
theorem Built.compile (hm : m.Fresh) (h : Built m done)
    (hdone : ∀ c ∈ m.classes, ∀ p ∈ c.computedProperties, isDone done c p = true) :
    m.compile = .ok (done.apply m) := by
  refine (Manifest.compile_eq_ok_iff hm).mpr ⟨fun c hc p hp => ?_, ?_⟩
  · obtain ⟨hmem, hcomputed⟩ := List.mem_filter.mp hp
    obtain ⟨r, hr⟩ := lookup_of_isDone (hm.properties c hc p hmem) hcomputed (hdone c hc p hp)
    obtain ⟨after, hout, -⟩ := h.reproduces hm hc hmem hcomputed hr (.refl done) (.start m)
      (by simp) (.nil done)
    rw [ensure, hout]
  · refine congrArg Manifest.mk (List.map_congr_left fun c hc => ?_)
    have hproperties : c.properties.map (done.settle c) = c.properties.map (firstSettled m c) :=
      List.map_congr_left fun p hp => settle_firstSettled hm h hdone hc hp
    rw [Progress.settleClass, firstClass, hproperties]

/-- An entry for a property that the manifest does not have changes nothing. -/
theorem apply_concat (hnew : m.IsNew c name) (r : Compiled) :
    Progress.apply (done ++ [((c, name), r)]) m = done.apply m := by
  refine congrArg Manifest.mk (List.map_congr_left fun e he => ?_)
  have hsettle : e.properties.map (Progress.settle (done ++ [((c, name), r)]) e) =
      e.properties.map (done.settle e) := by
    refine List.map_congr_left fun q hq => ?_
    have hkey : ((e.name, q.name) == (c, name)) = false := by
      have hne (hc : e.name = c) : q.name ≠ name := hnew.ne he hc hq
      simpa using hne
    simp only [Progress.settle, List.lookup_append, List.lookup_cons, hkey, List.lookup_nil,
      Option.or_none]
  rw [Progress.settleClass, Progress.settleClass, hsettle]

/-- A manifest with a new accessor compiles to what it compiles to without it, and the accessor to
what it stands for there. -/
theorem compile_withProperty (hm : m.Fresh) (hcompile : m.compile = .ok m') (hd : d ∈ m.classes)
    (hnew : m.IsNew d.name name) (helaborates : Elaborates m' d.name a.expression r.expression (.known t))
    (htests : TestsValues a.expression) (hdeclared : declared m.names t a.returns = .ok r.type) :
    (m.withProperty d.name (a.property name)).compile =
      .ok (m'.withProperty d.name (a.settled name r)) := by
  obtain ⟨done, rfl, hbuilt, hdone⟩ := Manifest.compile_built hm hcompile
  have hp := property_fresh a name
  have hM := hm.withProperty (c := d.name) hp hnew
  have hbuilt' := hbuilt.withProperty (c := d.name) hm hp hnew
  have hd' : d.withProperty d.name (a.property name) ∈
      (m.withProperty d.name (a.property name)).classes := List.mem_map_of_mem hd
  have hp' : a.property name ∈ (d.withProperty d.name (a.property name)).computedProperties :=
    List.mem_filter.mpr ⟨ClassDecl.mem_withProperty.mpr (.inr ⟨rfl, rfl⟩), rfl⟩
  have hfirst : done.lookup (d.name, name) = none := by
    refine Option.eq_none_iff_forall_ne_some.mpr fun x hx => ?_
    obtain ⟨-, -, -, e, he, q, hq, hkey, -⟩ := hbuilt.entry hx
    obtain ⟨hclass, hproperty⟩ := Prod.mk.inj hkey
    exact hnew.ne he hclass.symm (List.mem_of_mem_filter hq) hproperty.symm
  have hcompiled : (siteOf _ _ name (known done)).compile a = pure r :=
    (compile_eq_pure_iff hM hd' (hbuilt'.sound hM)).mpr ⟨t, by
      rw [ClassDecl.withProperty_name]
      exact helaborates.mono fun _ _ _ => hasMember_withProperty hnew, htests, by
      rwa [Manifest.names_withProperty]⟩
  have hadd : Built (m.withProperty d.name (a.property name)) (done ++ [((d.name, name), r)]) := by
    have h := hbuilt'.add hd' hp' (by rwa [ClassDecl.withProperty_name]) rfl hcompiled
    rwa [ClassDecl.withProperty_name] at h
  have hlookup : List.lookup (d.name, name) (done ++ [((d.name, name), r)]) = some r :=
    Progress.lookup_concat.mpr (.inr ⟨hfirst, rfl, rfl⟩)
  rw [hadd.compile hM]
  · rw [apply_withProperty rfl, apply_concat hnew, Progress.settle_computed hp rfl hlookup]
    rfl
  · intro e he q hq
    obtain ⟨e, hmem, rfl⟩ := List.mem_map.mp he
    obtain ⟨hq, hcomputed⟩ := List.mem_filter.mp hq
    rcases ClassDecl.mem_withProperty.mp hq with hq | ⟨hname, rfl⟩
    · have hbefore := hdone e hmem q (List.mem_filter.mpr ⟨hq, hcomputed⟩)
      have hafter := isDone_lasting e q done (done ++ [((d.name, name), r)])
        (List.prefix_append _ _) hbefore
      simpa [isDone] using hafter
    · exact (isDone_eq_true hp).mpr (.inr ⟨r, by rwa [ClassDecl.withProperty_name, hname]⟩)

end Accessor

end ViewModel
