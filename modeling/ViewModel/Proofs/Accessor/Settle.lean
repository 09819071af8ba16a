import Mathlib.Data.List.Nodup
import ViewModel.Proofs.Accessor.Meets
import ViewModel.Proofs.Build.Fresh
import ViewModel.Proofs.Expr.WellTyped

/-!
The classes with what is compiled so far. They are the classes of the build, property by property,
and a property that has a type keeps it while more is compiled.
-/

namespace ViewModel

namespace Manifest

theorem class?_eq_some {m : Manifest} (hm : m.names.Nodup) {d : ClassDecl} (hd : d ∈ m.classes) :
    m.class? d.name = some d := by
  have h : (m.class? d.name).isSome = true := by
    rw [class?, List.find?_isSome]
    exact ⟨d, hd, by simp⟩
  obtain ⟨e, he⟩ := Option.isSome_iff_exists.mp h
  have heq : e = d := List.inj_on_of_nodup_map hm (mem_of_class? he) hd (name_of_class? he)
  exact heq ▸ he

theorem mem_ancestry {m : Manifest} {n : Nat} {d e : ClassDecl} (hd : d ∈ m.classes)
    (he : e ∈ m.ancestry n d) : e ∈ m.classes := by
  induction n generalizing d with
  | zero =>
    obtain rfl := List.mem_singleton.mp he
    exact hd
  | succ n ih =>
    unfold ancestry at he
    split at he
    · next p hp =>
      rcases List.mem_cons.mp he with rfl | he
      · exact hd
      · obtain ⟨name, -, hname⟩ := Option.bind_eq_some_iff.mp hp
        exact ih (mem_of_class? hname) he
    · obtain rfl := List.mem_singleton.mp he
      exact hd

theorem mem_of_owner? {m : Manifest} {d e : ClassDecl} {name : String} (hd : d ∈ m.classes)
    (he : m.owner? d name = some e) : e ∈ m.classes :=
  mem_ancestry hd (List.mem_of_find?_eq_some he)

end Manifest

theorem ClassDecl.mem_of_property? {c : ClassDecl} {name : String} {p : PropertyDecl}
    (h : c.property? name = some p) : p ∈ c.properties :=
  List.mem_of_find?_eq_some h

namespace Accessor.Progress

variable {m : Manifest} {done after : Progress} {c d : ClassDecl} {q : PropertyDecl}
  {name : String}

@[simp] theorem settle_name : (done.settle d q).name = q.name := by
  unfold settle
  split
  · rfl
  · split <;> rfl

@[simp] theorem settle_isComputed : (done.settle d q).computed = q.computed := by
  unfold settle
  split
  · rfl
  · split <;> rfl

@[simp] theorem settleClass_name : (done.settleClass d).name = d.name := rfl

@[simp] theorem names_apply : (done.apply m).names = m.names := by
  simp [Manifest.names, apply]

theorem class?_apply (name : String) :
    (done.apply m).class? name = (m.class? name).map done.settleClass := by
  simp only [Manifest.class?, apply, List.find?_map]
  rfl

theorem property?_settleClass (name : String) :
    (done.settleClass d).property? name = (d.property? name).map (done.settle d) := by
  simp only [ClassDecl.property?, settleClass, List.find?_map]
  congr 2
  funext q
  simp

theorem ancestry_apply (n : Nat) :
    (done.apply m).ancestry n (done.settleClass d) = (m.ancestry n d).map done.settleClass := by
  have parent (d : ClassDecl) :
      (done.apply m).parent? (done.settleClass d) = (m.parent? d).map done.settleClass := by
    show d.parent.bind (done.apply m).class? = (d.parent.bind m.class?).map done.settleClass
    cases d.parent with
    | none => rfl
    | some p => exact class?_apply p
  induction n generalizing d with
  | zero => rfl
  | succ n ih =>
    rw [Manifest.ancestry, Manifest.ancestry, parent]
    cases m.parent? d with
    | none => rfl
    | some p => simp [ih]

theorem lineage_apply :
    (done.apply m).lineage (done.settleClass d) = (m.lineage d).map done.settleClass := by
  have hlength : (done.apply m).classes.length = m.classes.length := List.length_map _
  rw [Manifest.lineage, hlength, ancestry_apply]
  rfl

theorem owner?_apply (name : String) :
    (done.apply m).owner? (done.settleClass d) name =
      (m.owner? d name).map done.settleClass := by
  rw [Manifest.owner?, lineage_apply, List.find?_map]
  congr 2
  funext e
  simp [property?_settleClass]

theorem hasMember_apply {c name : String} {t : TypeRef} :
    (done.apply m).HasMember c name t ↔
      ∃ d owner q, m.class? c = some d ∧ m.owner? d name = some owner ∧
        owner.property? name = some q ∧ (done.settle owner q).type = t ∧ t.isProper = true := by
  constructor
  · rintro ⟨_, _, _, hd, howner, hq, ht⟩
    rw [class?_apply, Option.map_eq_some_iff] at hd
    obtain ⟨d, hclass, rfl⟩ := hd
    rw [owner?_apply, Option.map_eq_some_iff] at howner
    obtain ⟨owner, howned, rfl⟩ := howner
    rw [property?_settleClass, Option.map_eq_some_iff] at hq
    obtain ⟨q, hproperty, rfl⟩ := hq
    exact ⟨d, owner, q, hclass, howned, hproperty, ht⟩
  · rintro ⟨d, owner, q, hd, howner, hq, ht⟩
    refine ⟨done.settleClass d, done.settleClass owner, done.settle owner q, ?_, ?_, ?_, ht⟩
    · rw [class?_apply, hd, Option.map_some]
    · rw [owner?_apply, howner, Option.map_some]
    · rw [property?_settleClass, hq, Option.map_some]

theorem settle_field (hfield : q.computed = false) : done.settle d q = q := by
  simp [settle, isDone, hfield]

/-- A computed property of a build has what is compiled for it. -/
theorem settle_computed (hq : q.Fresh) (hcomputed : q.computed = true) {r : Compiled}
    (h : done.lookup (d.name, q.name) = some r) :
    done.settle d q = { q with type := r.type, expression := r.expression } := by
  simp [settle, isDone, hcomputed, hq.untouched, h]

theorem settle_type (hq : q.Fresh) : (done.settle d q).type = done.typeOf d q := by
  cases hcomputed : q.computed with
  | false =>
    have hresolved := TypeRef.ne_unresolved (hq.field hcomputed)
    rw [settle_field hcomputed, typeOf]
    split
    · contradiction
    · rfl
  | true =>
    have huntyped := hq.untyped hcomputed
    have hfresh : isDone [] d q = false := by simp [isDone, hcomputed, hq.untouched]
    simp only [settle, hfresh, typeOf, huntyped, hcomputed, if_true]
    cases done.lookup (d.name, q.name) <;> simp [huntyped]

theorem lookup_mono {key : Key} {r : Compiled} (h : done <+: after)
    (hr : done.lookup key = some r) : after.lookup key = some r := by
  obtain ⟨more, rfl⟩ := h
  rw [List.lookup_append, hr, Option.some_or]

/-- An entry of a longer progress is one of the progress before or the last one. -/
theorem lookup_concat {key last : Key} {r x : Compiled} :
    List.lookup key (done ++ [(last, x)]) = some r ↔
      done.lookup key = some r ∨ done.lookup key = none ∧ key = last ∧ x = r := by
  rw [List.lookup_append, Option.or_eq_some_iff, List.lookup_cons]
  split
  next h => simp [eq_of_beq h]
  next h => simp [ne_of_beq_false h]

/-- A computed property that has a type is compiled. -/
theorem lookup_of_typeOf (hq : q.Fresh) (hcomputed : q.computed = true)
    (ht : done.typeOf d q ≠ .unresolved) : ∃ r, done.lookup (d.name, q.name) = some r := by
  cases hr : done.lookup (d.name, q.name) with
  | some r => exact ⟨r, rfl⟩
  | none => simp [typeOf, hq.untyped hcomputed, hcomputed, hr] at ht

theorem typeOf_mono (h : done <+: after) (ht : done.typeOf d q ≠ .unresolved) :
    after.typeOf d q = done.typeOf d q := by
  unfold typeOf at ht ⊢
  cases htype : q.type <;> simp only [htype] at ht ⊢
  split at ht
  · split at ht
    · next hlookup => rw [lookup_mono h hlookup]
    · contradiction
  · contradiction

/-- A property that has a type keeps it. -/
theorem hasMember_lasting (hm : m.Fresh) (c name : String) (t : TypeRef) :
    Lasting (fun done => (done.apply m).HasMember c name t) := by
  intro done after hprefix h
  obtain ⟨d, owner, q, hd, howner, hq, ht, hproper⟩ := hasMember_apply.mp h
  have hmem := Manifest.mem_of_owner? (Manifest.mem_of_class? hd) howner
  have hfresh := hm.properties owner hmem q (ClassDecl.mem_of_property? hq)
  refine hasMember_apply.mpr ⟨d, owner, q, hd, howner, hq, ?_, hproper⟩
  rw [settle_type hfresh] at ht ⊢
  rw [typeOf_mono hprefix (ht ▸ TypeRef.ne_unresolved hproper), ht]

end Accessor.Progress

end ViewModel
