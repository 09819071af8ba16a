import Mathlib.Data.List.Pairwise
import ViewModel.Proofs.Model.Outline

/-!
Manifests in which looking up a property ends and finds it. Each class has a lineage that ends at a
class without a parent, and no two properties along it have one name.
-/

namespace ViewModel

def ClassDecl.outline (c : ClassDecl) : Outline :=
  ⟨c.name, c.parent, c.properties.map PropertyDecl.name⟩

namespace Manifest

variable {m : Manifest} {c d : ClassDecl} {p : PropertyDecl} {name : String} {n : Nat}
  {as : List ClassDecl}

def outlines (m : Manifest) : List Outline := m.classes.map ClassDecl.outline

theorem map_name_outlines (m : Manifest) : m.outlines.map Outline.name = m.names := by
  simp [outlines, names, Function.comp_def, ClassDecl.outline]

/-- The ancestors of a class are those on its line, where the line is not too long. -/
theorem ancestry_eq (h : Line m.parent? c as) (hlength : as.length ≤ n + 1) :
    m.ancestry n c = as := by
  induction h generalizing n with
  | last hnone =>
    cases n with
    | zero => rfl
    | succ n => rw [ancestry, hnone]
  | @step c d as hsome rest ih =>
    obtain ⟨more, rfl⟩ := rest.exists_eq_cons
    rw [List.length_cons] at hlength
    cases n with
    | zero => simp at hlength
    | succ n =>
      have hmore : (d :: more).length ≤ n + 1 := by omega
      rw [ancestry, hsome]
      dsimp only
      rw [ih hmore]

/-- What every manifest has whose classes are found by their names. -/
abbrev Linked (m : Manifest) : Prop := Outline.Linked m.outlines

/-- The lineage of a class is its whole line of ancestors, and properties along it are told apart
by their names. -/
structure Orderly (m : Manifest) : Prop where
  line : ∀ c ∈ m.classes, Line m.parent? c (m.lineage c)
  names : ∀ c ∈ m.classes, ((m.allProperties c).map PropertyDecl.name).Nodup

theorem lineage_eq (hm : m.Linked) (hc : c ∈ m.classes) (h : Line m.parent? c as) :
    m.lineage c = as := by
  have hlength := h.length_le (Outline.base?_closed hm) hc
  exact ancestry_eq h (by omega)

theorem mem_allProperties : p ∈ m.allProperties c ↔ ∃ d ∈ m.lineage c, p ∈ d.properties := by
  simp [allProperties]

theorem nodup_allProperties : ((m.allProperties c).map PropertyDecl.name).Nodup ↔
    (Outline.membersAlong ClassDecl.outline (m.lineage c)).Nodup := by
  have hperm : ((m.allProperties c).map PropertyDecl.name).Perm
      (Outline.membersAlong ClassDecl.outline (m.lineage c)) := by
    rw [allProperties, List.map_flatMap]
    exact (List.reverse_perm _).flatMap_right _
  exact hperm.nodup_iff

/-- A manifest is in order exactly where its classes fit together. -/
theorem orderly_iff_coherent (hm : m.Linked) : m.Orderly ↔ Outline.Coherent m.outlines := by
  rw [outlines, Outline.coherent_iff hm]
  constructor
  · intro h c hc
    exact ⟨m.lineage c, h.line c hc, nodup_allProperties.mp (h.names c hc)⟩
  · intro h
    refine ⟨fun c hc => ?_, fun c hc => ?_⟩
    · obtain ⟨as, hline, -⟩ := h c hc
      rw [lineage_eq hm hc hline]
      exact hline
    · obtain ⟨as, hline, hnodup⟩ := h c hc
      rw [nodup_allProperties, lineage_eq hm hc hline]
      exact hnodup

namespace Orderly

variable {q : PropertyDecl}

theorem eq_of_name (h : m.Orderly) (hc : c ∈ m.classes) (hp : p ∈ m.allProperties c)
    (hq : q ∈ m.allProperties c) (hname : p.name = q.name) : p = q :=
  List.inj_on_of_nodup_map (h.names c hc) hp hq hname

/-- Looking for a property finds the one of that name among all properties, if there is one. -/
theorem findProperty?_eq_some (h : m.Orderly) (hc : c ∈ m.classes) :
    m.findProperty? c name = some p ↔ p ∈ m.allProperties c ∧ p.name = name := by
  have found {q : PropertyDecl} (hq : m.findProperty? c name = some q) :
      q ∈ m.allProperties c ∧ q.name = name := by
    obtain ⟨d, hd, hproperty⟩ := List.exists_of_findSome?_eq_some hq
    have hname : q.name = name := by simpa using List.find?_some hproperty
    exact ⟨mem_allProperties.mpr ⟨d, hd, List.mem_of_find?_eq_some hproperty⟩, hname⟩
  constructor
  · exact found
  · rintro ⟨hp, rfl⟩
    obtain ⟨d, hd, hdeclared⟩ := mem_allProperties.mp hp
    have hown : (d.property? p.name).isSome = true :=
      List.find?_isSome.mpr ⟨p, hdeclared, by simp⟩
    have hsome : (m.findProperty? c p.name).isSome = true :=
      List.findSome?_isSome_iff.mpr ⟨d, hd, hown⟩
    obtain ⟨q, hq⟩ := Option.isSome_iff_exists.mp hsome
    obtain ⟨hlisted, hname⟩ := found hq
    rw [hq, h.eq_of_name hc hlisted hp hname]

/-- Classes of one lineage that declare properties of one name are one class. -/
theorem owner_unique (h : m.Orderly) (hc : c ∈ m.classes) {e : ClassDecl}
    (hd : d ∈ m.lineage c) (he : e ∈ m.lineage c) (hp : p ∈ d.properties) (hq : q ∈ e.properties)
    (hname : p.name = q.name) : d = e := by
  have hpairwise := (List.nodup_flatMap.mp (nodup_allProperties.mp (h.names c hc))).2
  have : Std.Symm (Function.onFun List.Disjoint fun x : ClassDecl => x.outline.members) :=
    ⟨fun _ _ hdisjoint _ hx hy => hdisjoint hy hx⟩
  by_contra hne
  have hdisjoint := hpairwise.forall hd he hne
  exact hdisjoint (List.mem_map_of_mem hp) (hname ▸ List.mem_map_of_mem hq)

/-- Looking for the owner of a property finds the class that declares it, if there is one. -/
theorem owner?_eq_some (h : m.Orderly) (hc : c ∈ m.classes) :
    m.owner? c name = some d ↔ d ∈ m.lineage c ∧ ∃ p ∈ d.properties, p.name = name := by
  have found {e : ClassDecl} (he : m.owner? c name = some e) :
      e ∈ m.lineage c ∧ ∃ p ∈ e.properties, p.name = name := by
    have hown : (e.property? name).isSome = true := by simpa using List.find?_some he
    obtain ⟨q, hq⟩ := Option.isSome_iff_exists.mp hown
    have hname : q.name = name := by simpa using List.find?_some hq
    exact ⟨List.mem_of_find?_eq_some he, q, List.mem_of_find?_eq_some hq, hname⟩
  constructor
  · exact found
  · rintro ⟨hd, p, hp, rfl⟩
    have hown : (d.property? p.name).isSome = true := List.find?_isSome.mpr ⟨p, hp, by simp⟩
    have hsome : (m.owner? c p.name).isSome = true := List.find?_isSome.mpr ⟨d, hd, hown⟩
    obtain ⟨e, he⟩ := Option.isSome_iff_exists.mp hsome
    obtain ⟨hmem, q, hq, hname⟩ := found he
    rw [he, h.owner_unique hc hd hmem hp hq hname.symm]

end Orderly

end Manifest

end ViewModel
