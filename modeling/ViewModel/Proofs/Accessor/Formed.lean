import ViewModel.Proofs.Accessor.Cycles
import ViewModel.Proofs.Build.Accepted

/-!
Properties after compiling. Every type that is inferred, of a field or of an accessor, is made of
primitive types and of classes of the build, and every accessor has become an expression.
-/

namespace ViewModel

open Source (Declaration)

variable {all : List Declaration} {m m' : Manifest} {c : ClassDecl} {p : PropertyDecl}

/-- A property with its whole type, which refers to these classes, and with an expression if it is
computed. -/
structure PropertyDecl.Formed (classes : List String) (p : PropertyDecl) : Prop where
  type : p.type.Formed classes
  expression : p.computed = true → p.expression.isComplete = true

/-- The fields of a manifest have types that refer to its classes. -/
def Manifest.FieldsFormed (m : Manifest) : Prop :=
  ∀ c ∈ m.classes, ∀ p ∈ c.properties, p.computed = false → p.type.Formed m.names

theorem Resolve.fields_formed (h : manifest all = .ok m) : m.FieldsFormed := by
  intro c hc p hp hfield
  rw [names_of_manifest h]
  obtain ⟨d, -, hd⟩ := Success.exists_left (declares_of_manifest h) hc
  obtain ⟨member, -, hmember⟩ := Success.exists_left hd.properties hp
  exact property_formed hmember hfield

namespace Accessor

variable {done : Progress}

/-- All that is compiled has types that refer to these classes. -/
def Progress.Formed (classes : List String) (done : Progress) : Prop :=
  ∀ key r, done.lookup key = some r → r.type.Formed classes

theorem hasMember_formed (hm : m.Fresh) (hfields : m.FieldsFormed) (hdone : done.Formed m.names)
    {receiver name : String} {t : TypeRef} (h : (done.apply m).HasMember receiver name t) :
    t.Formed m.names := by
  obtain ⟨d, owner, q, hd, howner, hq, rfl, hproper⟩ := Progress.hasMember_apply.mp h
  have howned := Manifest.mem_of_owner? (Manifest.mem_of_class? hd) howner
  have hmem := ClassDecl.mem_of_property? hq
  have hfresh := hm.properties owner howned q hmem
  cases hcomputed : q.computed with
  | false =>
    rw [Progress.settle_field hcomputed]
    exact hfields owner howned q hmem hcomputed
  | true =>
    rw [Progress.settle_type hfresh] at hproper
    obtain ⟨r, hr⟩ := Progress.lookup_of_typeOf hfresh hcomputed (TypeRef.ne_unresolved hproper)
    rw [Progress.settle_computed hfresh hcomputed hr]
    exact hdone _ r hr

/-- On the entries: the members that an accessor reads have their types from the entries before. -/
theorem Built.formed (hm : m.Fresh) (hfields : m.FieldsFormed) (h : Built m done) :
    done.Formed m.names := by
  induction h with
  | nil => exact fun _ _ hr => by simp at hr
  | @add before c p a r hbefore hc hp hnew ha hcompiled ih =>
    intro key x hx
    rcases Progress.lookup_concat.mp hx with hx | ⟨-, rfl, rfl⟩
    · exact ih key x hx
    · obtain ⟨t, helaborates, ht, -⟩ := means_of_known hm hc (hbefore.sound hm) hcompiled
      have hself : TypeRef.Formed m.names (.reference c.name) :=
        .reference (List.mem_map_of_mem hc)
      have hformed : t.Formed m.names := helaborates.wellTyped.keeps .primitive
        (fun _ => .orNull) hself fun _ _ _ => hasMember_formed hm hfields ih
      rcases ht with ht | ht
      · exact ht ▸ hformed
      · exact ht ▸ hformed.orNull

end Accessor

namespace Manifest

open Accessor

theorem compiled_formed (hm : Resolve.manifest all = .ok m) (hcompile : m.compile = .ok m') :
    ∀ c ∈ m'.classes, ∀ p ∈ c.properties, p.Formed m'.names := by
  have hfresh := Resolve.manifest_fresh hm
  have hfields := Resolve.fields_formed hm
  obtain ⟨done, rfl, hbuilt, hdone⟩ := compile_built hfresh hcompile
  rw [Progress.names_apply]
  intro c hc p hp
  obtain ⟨d, hd, rfl⟩ := List.mem_map.mp hc
  obtain ⟨q, hq, rfl⟩ := List.mem_map.mp hp
  cases hcomputed : q.computed with
  | false =>
    rw [Progress.settle_field hcomputed]
    refine ⟨hfields d hd q hq hcomputed, fun h => ?_⟩
    rw [hcomputed] at h
    cases h
  | true =>
    have hq' := hfresh.properties d hd q hq
    obtain ⟨r, hr⟩ := lookup_of_isDone hq' hcomputed
      (hdone d hd q (List.mem_filter.mpr ⟨hq, hcomputed⟩))
    obtain ⟨a, -, t, helaborates, -, -⟩ := hbuilt.sound hfresh d hd q hq r hr
    rw [Progress.settle_computed hq' hcomputed hr]
    exact ⟨hbuilt.formed hfresh hfields _ r hr, fun _ => helaborates.wellTyped.isComplete⟩

end Manifest

end ViewModel
