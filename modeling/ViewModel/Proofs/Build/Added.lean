import ViewModel.Proofs.Accessor.Added

/-!
One more accessor in the declarations of a build. The class that declares it has it as its last
property, and everything else is as it was.
-/

namespace ViewModel

open Relation (TransGen)
open Source (Declaration Member)

namespace Outline

/-- The outline with one more member, if it is that of the class of this name. -/
def withMember (c name : String) (o : Outline) : Outline :=
  if o.name = c then { o with members := o.members ++ [name] } else o

variable {c name : String} {o : Outline} {os : List Outline}

@[simp] theorem withMember_name : (o.withMember c name).name = o.name := by
  unfold withMember
  split <;> rfl

@[simp] theorem withMember_base : (o.withMember c name).base = o.base := by
  unfold withMember
  split <;> rfl

theorem mem_withMember {x : String} : x ∈ (o.withMember c name).members ↔
    x ∈ o.members ∨ o.name = c ∧ x = name := by
  unfold withMember
  split
  next h => simp [h]
  next h => simp [h]

theorem Linked.withMember (h : Linked os) : Linked (os.map (Outline.withMember c name)) := by
  have hnames : (os.map (Outline.withMember c name)).map Outline.name = os.map Outline.name := by
    simp [Function.comp_def]
  refine ⟨hnames ▸ h.names, fun x hx base hbase => ?_⟩
  obtain ⟨o, ho, rfl⟩ := List.mem_map.mp hx
  rw [withMember_base] at hbase
  exact hnames ▸ h.bases o ho base hbase

theorem extends_withMember : Extends (os.map (Outline.withMember c name)) = Extends os := by
  funext a b
  simp [Extends]

/-- No class that is of the name `c`, descends from it or is an ancestor of it has this member. -/
structure IsNew (os : List Outline) (c name : String) : Prop where
  own : ∀ o ∈ os, o.name = c → name ∉ o.members
  below : ∀ o ∈ os, TransGen (Extends os) o.name c → name ∉ o.members
  above : ∀ o ∈ os, TransGen (Extends os) c o.name → name ∉ o.members

/-- A class and an ancestor of it cannot both be the one that has the new member. -/
theorem Coherent.withMember (h : Coherent os) (hnew : IsNew os c name) :
    Coherent (os.map (Outline.withMember c name)) := by
  refine ⟨?_, fun x hx => ?_, fun x hx y hy hpath => ?_⟩
  · rw [extends_withMember]
    exact h.acyclic
  · obtain ⟨o, ho, rfl⟩ := List.mem_map.mp hx
    unfold Outline.withMember
    split
    next hname =>
      rw [List.nodup_append_comm]
      exact List.nodup_cons.mpr ⟨hnew.own o ho hname, h.members o ho⟩
    · exact h.members o ho
  · obtain ⟨o, ho, rfl⟩ := List.mem_map.mp hx
    obtain ⟨e, he, rfl⟩ := List.mem_map.mp hy
    rw [withMember_name, withMember_name, extends_withMember] at hpath
    intro x hx hx'
    rcases mem_withMember.mp hx with hx | ⟨hname, rfl⟩ <;>
      rcases mem_withMember.mp hx' with hx' | ⟨hname', hx'⟩
    · exact h.inherited o ho e he hpath hx hx'
    · exact hnew.below o ho (hname' ▸ hpath) (hx' ▸ hx)
    · exact hnew.above e he (hname ▸ hpath) hx'
    · rw [hname, hname'] at hpath
      exact h.acyclic c hpath

end Outline

/-- The declaration with one more member, if it is that of the class of this name. -/
def Source.Declaration.withMember (c : String) (member : Member) (d : Declaration) : Declaration :=
  if d.name = c then { d with members := d.members ++ [member] } else d

theorem outline_withMember (c : String) (member : Member) (d : Declaration) :
    (d.withMember c member).outline = d.outline.withMember c member.name := by
  unfold Declaration.withMember Outline.withMember
  by_cases h : d.name = c <;> simp [Declaration.outline, h]

namespace Resolve

/-- The declarations with one more accessor in a class. -/
def withAccessor (all : List Declaration) (c name : String) (line : Nat) (a : Accessor) :
    List Declaration :=
  all.map (.withMember c (.accessor name line a.expression a.returns))

variable {all : List Declaration} {classes : List String} {m : Manifest} {c name : String}
  {line : Nat} {a : Accessor} {d : Declaration} {member : Member} {e : ClassDecl}

/-- A name that is new in the manifest of a build is new in its declarations. -/
theorem isNew_of_manifest (hm : manifest all = .ok m) (hnew : m.IsNew c name) :
    Outline.IsNew (outlines all) c name := by
  have hlinked := linked_of_manifest hm
  have horderly := orderly_of_manifest hm
  have reached {x : ClassDecl} (hx : x ∈ m.classes) {y : String}
      (hpath : TransGen (Outline.Extends m.outlines) x.name y) :
      ∃ e ∈ m.classes, e.name = y ∧ e ∈ m.lineage x := by
    obtain ⟨e, he, hname, hpath⟩ := Outline.transGen_follows hlinked hx hpath
    exact ⟨e, he, hname, (horderly.line x hx).mem_iff.mpr hpath.to_reflTransGen⟩
  rw [← outlines_of_manifest hm]
  refine ⟨fun o ho hname hmem => ?_, fun o ho hpath hmem => ?_, fun o ho hpath hmem => ?_⟩
  · obtain ⟨x, hx, rfl⟩ := List.mem_map.mp ho
    obtain ⟨q, hq, hqname⟩ := List.mem_map.mp hmem
    exact hnew.ne hx hname hq hqname
  · obtain ⟨x, hx, rfl⟩ := List.mem_map.mp ho
    obtain ⟨q, hq, hqname⟩ := List.mem_map.mp hmem
    obtain ⟨e, -, hname, he⟩ := reached hx hpath
    exact hnew x hx e he hname ⟨x, m.self_mem_lineage x, q, hq, hqname⟩
  · obtain ⟨x, hx, rfl⟩ := List.mem_map.mp ho
    obtain ⟨q, hq, hqname⟩ := List.mem_map.mp hmem
    obtain ⟨y, hy, rfl⟩ : ∃ y ∈ m.classes, y.name = c := by
      obtain ⟨_, ⟨o, ho, hname, -⟩, -⟩ := TransGen.head'_iff.mp hpath
      obtain ⟨y, hy, rfl⟩ := List.mem_map.mp ho
      exact ⟨y, hy, hname⟩
    obtain ⟨e, hmem, hname, he⟩ := reached hy hpath
    obtain rfl : e = x := Outline.eq_of_name hlinked hmem hx hname
    exact hnew y hy y (m.self_mem_lineage y) rfl ⟨e, he, q, hq, hqname⟩

theorem names_withAccessor : (withAccessor all c name line a).map (·.name) = all.map (·.name) := by
  have hname (member : Member) (d : Declaration) : (d.withMember c member).name = d.name := by
    unfold Declaration.withMember
    split <;> rfl
  simp [withAccessor, hname, Function.comp_def]

theorem wellFormed_withAccessor (h : WellFormed all) (hnew : Outline.IsNew (outlines all) c name) :
    WellFormed (withAccessor all c name line a) := by
  have houtlines : outlines (withAccessor all c name line a) =
      (outlines all).map (Outline.withMember c name) := by
    simp [outlines, withAccessor, outline_withMember, Member.name, Function.comp_def]
  refine ⟨houtlines ▸ h.linked.withMember, houtlines ▸ h.coherent.withMember hnew, ?_⟩
  intro x hx segment line' value hint hmember
  rw [names_withAccessor]
  obtain ⟨d, hd, rfl⟩ := List.mem_map.mp hx
  have hfield : Member.field segment line' value hint ∈ d.members := by
    unfold Declaration.withMember at hmember
    split at hmember
    · simpa using hmember
    · exact hmember
  exact h.fields d hd segment line' value hint hfield

theorem Declares.withMember (h : Declares classes d e) {p : PropertyDecl}
    (hp : property classes member = .ok p) :
    Declares classes (d.withMember c member) (e.withProperty c p) := by
  unfold Declaration.withMember ClassDecl.withProperty
  by_cases hc : d.name = c
  · have he : e.name = c := h.name.trans hc
    rw [if_pos hc, if_pos he]
    exact ⟨h.name, h.parent, h.source, List.rel_append h.properties (.cons hp .nil)⟩
  · have he : e.name ≠ c := fun he => hc (h.name.symm.trans he)
    rw [if_neg hc, if_neg he]
    exact h

/-- A build with a new accessor gives the manifest of the build with the new property. -/
theorem manifest_withAccessor (hm : manifest all = .ok m) (hnew : m.IsNew c name) :
    manifest (withAccessor all c name line a) = .ok (m.withProperty c (a.property name)) := by
  have hformed : WellFormed (withAccessor all c name line a) :=
    wellFormed_withAccessor (exists_manifest_iff.mp ⟨m, hm⟩) (isNew_of_manifest hm hnew)
  obtain ⟨n, hn⟩ := exists_manifest_iff.mpr hformed
  have hn' := declares_of_manifest hn
  rw [names_withAccessor] at hn'
  have hm' : List.Forall₂ (Declares (all.map (·.name))) (withAccessor all c name line a)
      (m.withProperty c (a.property name)).classes := by
    rw [withAccessor, Manifest.withProperty, List.forall₂_map_left_iff, List.forall₂_map_right_iff]
    exact (declares_of_manifest hm).imp fun d e h => h.withMember rfl
  have hunique : Relator.RightUnique (Declares (all.map (·.name))) :=
    fun _ _ _ h h' => h.unique h'
  have hclasses := hunique.forall₂ hn' hm'
  rw [hn, show n = m.withProperty c (a.property name) from congrArg Manifest.mk hclasses]

/-- A build with a new accessor compiles to what the build compiles to without it, and the accessor
to what it stands for there. -/
theorem compiled_withAccessor {m' : Manifest} {d : ClassDecl} {r : Accessor.Compiled} {t : TypeRef}
    (hm : manifest all = .ok m) (hcompile : m.compile = .ok m') (hd : d ∈ m'.classes)
    (hnew : m.IsNew d.name name)
    (helaborates : Accessor.Elaborates m' d.name a.expression r.expression (.known t))
    (htests : Accessor.TestsValues a.expression)
    (hdeclared : Accessor.declared m.names t a.returns = .ok r.type) :
    compiled (withAccessor all d.name name line a) =
      .ok (m'.withProperty d.name (a.settled name r)) := by
  have hfresh := manifest_fresh hm
  obtain ⟨done, rfl, -⟩ := Manifest.compile_eq_ok hfresh hcompile
  obtain ⟨d, hmem, rfl⟩ := List.mem_map.mp hd
  exact Success.bind_of_ok (manifest_withAccessor hm hnew)
    (Accessor.compile_withProperty (d := d) hfresh hcompile hmem hnew helaborates htests hdeclared)

end Resolve

end ViewModel
