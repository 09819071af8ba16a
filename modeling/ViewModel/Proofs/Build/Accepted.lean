import ViewModel.Proofs.Build.Resolved

/-!
Which declarations a build accepts: those whose classes fit together and whose fields have types.
The manifest that comes of them has their classes in order, and what is looked up in it is found.
-/

namespace ViewModel

open Relation (TransGen)
open Source (Declaration Member)

namespace Resolve

variable {all : List Declaration} {d : Declaration} {c : ClassDecl} {classes : List String}
  {ancestors : List Declaration} {m : Manifest}

/-- The declarations that make a manifest: class names are distinct and every class that is
extended is declared, classes fit together, and the type of every field can be inferred where all
classes are known. -/
structure WellFormed (all : List Declaration) : Prop where
  linked : Outline.Linked (outlines all)
  coherent : Outline.Coherent (outlines all)
  fields : ∀ d ∈ all, ∀ name line value hint, Member.field name line value hint ∈ d.members →
    ∃ r, Field.infer (all.map (·.name)) value hint = .ok r

theorem find?_hasMember_eq_none : (∀ member ∈ d.members,
    ancestors.find? (hasMember member.name) = none) ↔
      ∀ e ∈ ancestors, d.outline.members.Disjoint e.outline.members := by
  have hasMember_iff (name : String) (e : Declaration) :
      hasMember name e = true ↔ name ∈ e.outline.members := by
    simp [hasMember, Declaration.outline]
  simp only [List.find?_eq_none, hasMember_iff]
  constructor
  · intro h e he name hname hinherited
    obtain ⟨member, hmember, rfl⟩ := List.mem_map.mp hname
    exact h member hmember e he hinherited
  · intro h member hmember e he hinherited
    exact h e he (List.mem_map_of_mem hmember) hinherited

theorem exists_property_iff {member : Member} : (∃ p, property classes member = .ok p) ↔
    ∀ name line value hint, member = .field name line value hint →
      ∃ r, Field.infer classes value hint = .ok r := by
  cases member with
  | field name line value hint =>
    constructor
    · rintro ⟨p, hp⟩ _ _ _ _ heq
      obtain ⟨-, -, rfl, rfl⟩ := Member.field.inj heq
      obtain ⟨r, hr, -⟩ := Success.bind_eq_ok.mp hp
      exact ⟨r, hr⟩
    · intro h
      obtain ⟨r, hr⟩ := h name line value hint rfl
      exact ⟨_, Success.bind_eq_ok.mpr ⟨r, hr, rfl⟩⟩
  | accessor name line expression returns =>
    constructor
    · intro _ _ _ _ _ heq
      cases heq
    · intro _
      exact ⟨_, rfl⟩

theorem exists_declares_iff : (∃ c, Declares classes d c) ↔
    ∀ name line value hint, Member.field name line value hint ∈ d.members →
      ∃ r, Field.infer classes value hint = .ok r := by
  have hmembers : (∃ ps, List.Forall₂ (fun member p => property classes member = .ok p)
      d.members ps) ↔ ∀ member ∈ d.members, ∃ p, property classes member = .ok p :=
    Success.exists_forall₂
  constructor
  · rintro ⟨c, hc⟩ name line value hint hmem
    exact exists_property_iff.mp (hmembers.mp ⟨_, hc.properties⟩ _ hmem) name line value hint rfl
  · intro h
    obtain ⟨ps, hps⟩ := hmembers.mpr fun member hmem => exists_property_iff.mpr
      fun name line value hint heq => h name line value hint (heq ▸ hmem)
    exact ⟨⟨d.name, d.base, ps, some d.source⟩, rfl, rfl, rfl, hps⟩

/-- Every declaration makes a class exactly where classes fit together and fields have types. -/
theorem forall_resolves_iff (h : Outline.Linked (outlines all)) :
    (∀ d ∈ all, ∃ c, Resolves all d c) ↔ Outline.Coherent (outlines all) ∧
      ∀ d ∈ all, ∃ c, Declares (all.map (·.name)) d c := by
  constructor
  · intro hall
    refine ⟨⟨?_, fun o ho => ?_, fun o ho e he hpath => ?_⟩, fun d hd => ?_⟩
    · refine (Outline.lines_iff_acyclic h).mp fun d hd => ?_
      obtain ⟨c, ancestors, hline, -⟩ := hall d hd
      exact ⟨_, hline⟩
    · obtain ⟨d, hd, rfl⟩ := List.mem_map.mp ho
      obtain ⟨c, ancestors, -, hc⟩ := hall d hd
      exact (classDecl_eq_ok.mp hc).1
    · obtain ⟨d, hd, rfl⟩ := List.mem_map.mp ho
      obtain ⟨f, hf, rfl⟩ := List.mem_map.mp he
      obtain ⟨c, ancestors, hline, hc⟩ := hall d hd
      obtain ⟨g, hg, hname, hreached⟩ := Outline.transGen_follows h hd hpath
      obtain rfl := eq_of_name h hg hf hname
      exact find?_hasMember_eq_none.mp (classDecl_eq_ok.mp hc).2.1 g
        (hline.mem_tail_iff.mpr hreached)
    · obtain ⟨c, hc⟩ := hall d hd
      exact ⟨c, hc.declares⟩
  · rintro ⟨hcoherent, hdeclares⟩ d hd
    obtain ⟨line, hline⟩ := (Outline.lines_iff_acyclic h).mpr hcoherent.acyclic d hd
    obtain ⟨ancestors, rfl⟩ := hline.exists_eq_cons
    obtain ⟨c, hc⟩ := hdeclares d hd
    have hinherited : ∀ e ∈ ancestors, d.outline.members.Disjoint e.outline.members := by
      intro e he
      obtain ⟨hmem, hpath⟩ := Outline.transGen_extends h hd (hline.mem_tail_iff.mp he)
      exact hcoherent.inherited _ (List.mem_map_of_mem hd) _ (List.mem_map_of_mem hmem) hpath
    exact ⟨c, ancestors, hline, classDecl_eq_ok.mpr
      ⟨hcoherent.members _ (List.mem_map_of_mem hd), find?_hasMember_eq_none.mpr hinherited, hc⟩⟩

theorem exists_manifest_iff : (∃ m, manifest all = .ok m) ↔ WellFormed all := by
  have hclasses : (∃ m, manifest all = .ok m) ↔
      Outline.Linked (outlines all) ∧ ∀ d ∈ all, ∃ c, Resolves all d c := by
    rw [← Success.exists_forall₂]
    constructor
    · rintro ⟨m, hm⟩
      obtain ⟨hlinked, hresolved⟩ := manifest_eq_ok.mp hm
      exact ⟨hlinked, m.classes, hresolved⟩
    · rintro ⟨hlinked, cs, hresolved⟩
      exact ⟨⟨cs⟩, manifest_eq_ok.mpr ⟨hlinked, hresolved⟩⟩
  rw [hclasses]
  constructor
  · rintro ⟨hlinked, hall⟩
    obtain ⟨hcoherent, hdeclares⟩ := (forall_resolves_iff hlinked).mp hall
    exact ⟨hlinked, hcoherent, fun d hd => exists_declares_iff.mp (hdeclares d hd)⟩
  · rintro ⟨hlinked, hcoherent, hfields⟩
    exact ⟨hlinked, (forall_resolves_iff hlinked).mpr
      ⟨hcoherent, fun d hd => exists_declares_iff.mpr (hfields d hd)⟩⟩

theorem declares_of_manifest (h : manifest all = .ok m) :
    List.Forall₂ (Declares (all.map (·.name))) all m.classes :=
  (manifest_eq_ok.mp h).2.imp fun _ _ => Resolves.declares

/-- A build leaves the names of classes, of what they extend and of members as they are. -/
theorem outlines_of_manifest (h : manifest all = .ok m) : m.outlines = outlines all := by
  refine (List.forall₂_eq_eq_eq ▸ ?_ : outlines all = m.outlines).symm
  rw [outlines, Manifest.outlines, List.forall₂_map_left_iff, List.forall₂_map_right_iff]
  exact (declares_of_manifest h).imp fun _ _ hd => hd.outline.symm

theorem names_of_manifest (h : manifest all = .ok m) : m.names = all.map (·.name) := by
  rw [← Manifest.map_name_outlines, outlines_of_manifest h, map_name_outlines]

theorem linked_of_manifest (h : manifest all = .ok m) : m.Linked := by
  rw [Manifest.Linked, outlines_of_manifest h]
  exact (exists_manifest_iff.mp ⟨m, h⟩).linked

theorem orderly_of_manifest (h : manifest all = .ok m) : m.Orderly := by
  rw [Manifest.orderly_iff_coherent (linked_of_manifest h), outlines_of_manifest h]
  exact (exists_manifest_iff.mp ⟨m, h⟩).coherent

/-- A class of a manifest that was built: each class it extends is found by its name, its lineage
ends, and along it a property is found by its name, with its owner, exactly if it is there. -/
structure Found (m : Manifest) (c : ClassDecl) : Prop where
  parent : ∀ e, m.parent? c = some e ↔ e ∈ m.classes ∧ c.parent = some e.name
  linked : ∀ base, c.parent = some base → ∃ e, m.parent? c = some e ∧ e.name = base
  lineage : Line m.parent? c (m.lineage c)
  names : ((m.allProperties c).map PropertyDecl.name).Nodup
  property : ∀ name p, m.findProperty? c name = some p ↔ p ∈ m.allProperties c ∧ p.name = name
  owner : ∀ name d, m.owner? c name = some d ↔
    d ∈ m.lineage c ∧ ∃ p ∈ d.properties, p.name = name

theorem found_of_manifest (h : manifest all = .ok m) (hc : c ∈ m.classes) : Found m c := by
  have hlinked := linked_of_manifest h
  have horderly := orderly_of_manifest h
  have hparent (e : ClassDecl) : m.parent? c = some e ↔ e ∈ m.classes ∧ c.parent = some e.name :=
    Outline.base?_eq_some hlinked
  refine ⟨hparent, fun base hbase => ?_, horderly.line c hc, horderly.names c hc,
    fun name p => horderly.findProperty?_eq_some hc, fun name d => horderly.owner?_eq_some hc⟩
  obtain ⟨o, ho, rfl⟩ := List.mem_map.mp
    (hlinked.bases c.outline (List.mem_map_of_mem hc) base hbase)
  obtain ⟨e, he, rfl⟩ := List.mem_map.mp ho
  exact ⟨e, (hparent e).mpr ⟨he, hbase⟩, rfl⟩

/-- A build gives a manifest for exactly the declarations that are well-formed. Its classes are what
these declare, in order, and everything in it is found by its name. -/
theorem manifest_accepts (all : List Declaration) :
    ((∃ m, manifest all = .ok m) ↔ WellFormed all) ∧
      ∀ m, manifest all = .ok m →
        List.Forall₂ (Declares (all.map (·.name))) all m.classes ∧
          ∀ c ∈ m.classes, Found m c := by
  refine ⟨exists_manifest_iff, fun m h => ⟨declares_of_manifest h, fun c hc => ?_⟩⟩
  exact found_of_manifest h hc

end Resolve

namespace Sample

/-- A class that extends one declared after it. -/
def branch : Declaration where
  name := "Branch"
  base := some "Root"
  members := [.field "depth" 2 (some (.constant (.int 1))) none]
  source := "family.py"
  line := 1

def root : Declaration where
  name := "Root"
  base := none
  members := [.field "title" 5 none (some (.name "str"))]
  source := "family.py"
  line := 4

def title : PropertyDecl := { name := "title", type := .string }

def branchClass : ClassDecl :=
  { name := "Branch", parent := some "Root",
    properties := [{ name := "depth", type := .integer, default := .int 1 }],
    source := some "family.py" }

def rootClass : ClassDecl :=
  { name := "Root", properties := [title], source := some "family.py" }

def family : Manifest := ⟨[branchClass, rootClass]⟩

theorem family_eq : Resolve.manifest [branch, root] = .ok family := rfl

end Sample

/-- An inherited property is found with the class that declares it. -/
theorem Resolve.manifest_accepts_family :
    WellFormed [Sample.branch, Sample.root] ∧
      Sample.family.findProperty? Sample.branchClass "title" = some Sample.title ∧
      Sample.family.owner? Sample.branchClass "title" = some Sample.rootClass := by
  obtain ⟨hiff, hmanifest⟩ := manifest_accepts [Sample.branch, Sample.root]
  have hfound := (hmanifest Sample.family Sample.family_eq).2 Sample.branchClass
    List.mem_cons_self
  have hlineage : Sample.family.lineage Sample.branchClass =
      [Sample.branchClass, Sample.rootClass] := rfl
  refine ⟨hiff.mp ⟨Sample.family, Sample.family_eq⟩, ?_, ?_⟩
  · exact (hfound.property "title" Sample.title).mpr ⟨List.mem_cons_self, rfl⟩
  · refine (hfound.owner "title" Sample.rootClass).mpr ⟨?_, Sample.title, ?_, rfl⟩
    · rw [hlineage]
      exact List.mem_cons_of_mem _ List.mem_cons_self
    · exact List.mem_cons_self

end ViewModel
