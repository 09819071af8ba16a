import ViewModel.Proofs.Accessor.Formed
import ViewModel.Proofs.Accessor.Soundness
import ViewModel.Target.ClassFile

/-!
Classes that have been compiled are written in every target. What a file needs of its class is that
every type is whole and every computed property has its expression.
-/

namespace ViewModel

open Source (Declaration)

variable {classes : List String} {p : PropertyDecl} {c : ClassDecl} {t : TypeRef}

theorem TypeRef.Formed.exists_typeName (target : Target) (h : t.Formed classes) :
    ∃ s, target.typeName t = .ok s := by
  induction h with
  | primitive kind => cases target <;> cases kind <;> exact ⟨_, rfl⟩
  | reference => cases target <;> exact ⟨_, rfl⟩
  | sequence _ ih | nullable _ _ ih =>
    cases target <;> exact Success.exists_bind_eq_ok ih fun _ => ⟨_, rfl⟩

theorem PropertyDecl.Formed.exists_print (dialect : Dialect) (h : p.Formed classes)
    (hcomputed : p.computed = true) : ∃ s, dialect.print p.expression = .ok s :=
  ⟨_, if_pos (h.expression hcomputed)⟩

namespace ClassFile

theorem exists_csharpInitializer (h : p.Formed classes) : ∃ s, csharpInitializer p = .ok s := by
  unfold csharpInitializer
  split
  · exact ⟨_, rfl⟩
  · exact ⟨_, rfl⟩
  · exact Success.exists_bind_eq_ok (h.type.exists_typeName .csharp) fun _ => ⟨_, rfl⟩

theorem exists_csharpProperty (h : p.Formed classes) : ∃ s, csharpProperty p = .ok s := by
  refine Success.exists_bind_eq_ok (h.type.exists_typeName .csharp) fun t => ?_
  dsimp only
  split
  next hcomputed =>
    exact Success.exists_bind_eq_ok (h.exists_print .csharp hcomputed) fun _ => ⟨_, rfl⟩
  · exact Success.exists_bind_eq_ok (exists_csharpInitializer h) fun _ => ⟨_, rfl⟩

theorem exists_typescriptProperty (isFirst : Bool) (h : p.Formed classes) :
    ∃ ls, typescriptProperty isFirst p = .ok ls := by
  refine Success.exists_bind_eq_ok (h.type.exists_typeName .typescript) fun t => ?_
  split
  next hcomputed =>
    exact Success.exists_bind_eq_ok (h.exists_print .typescript hcomputed) fun _ => ⟨_, rfl⟩
  · exact ⟨_, rfl⟩

theorem exists_pythonProperties (isFirst afterAccessor : Bool) {ps : List PropertyDecl}
    (h : ∀ p ∈ ps, p.Formed classes) :
    ∃ ls, pythonProperties isFirst afterAccessor ps = .ok ls := by
  induction ps generalizing isFirst afterAccessor with
  | nil => exact ⟨[], rfl⟩
  | cons p ps ih =>
    obtain ⟨hp, hps⟩ := List.forall_mem_cons.mp h
    refine Success.exists_bind_eq_ok (hp.type.exists_typeName .python) fun t => ?_
    split
    next hcomputed =>
      refine Success.exists_bind_eq_ok (hp.exists_print .python hcomputed) fun value => ?_
      exact Success.exists_bind_eq_ok (ih false true hps) fun _ => ⟨_, rfl⟩
    · exact Success.exists_bind_eq_ok (ih false false hps) fun _ => ⟨_, rfl⟩

end ClassFile

theorem Target.exists_classFile (target : Target) (namespaceName : String)
    (h : ∀ p ∈ c.properties, p.Formed classes) :
    ∃ text, target.classFile namespaceName c = .ok text := by
  cases target with
  | csharp =>
    have hproperties := Success.exists_mapM_eq_ok.mpr fun p hp =>
      ClassFile.exists_csharpProperty (h p hp)
    exact Success.exists_bind_eq_ok hproperties fun _ => ⟨_, rfl⟩
  | typescript =>
    have hlines (isFirst : Bool) (ps : List PropertyDecl) (hps : ps ⊆ c.properties) :
        ∃ lines, ps.mapM (ClassFile.typescriptProperty isFirst) = .ok lines :=
      Success.exists_mapM_eq_ok.mpr fun p hp =>
        ClassFile.exists_typescriptProperty isFirst (h p (hps hp))
    refine Success.exists_bind_eq_ok (hlines true _ (List.take_subset 1 _)) fun _ => ?_
    exact Success.exists_bind_eq_ok (hlines false _ (List.drop_subset 1 _)) fun _ => ⟨_, rfl⟩
  | python =>
    have hproperties := ClassFile.exists_pythonProperties true false h
    exact Success.exists_bind_eq_ok hproperties fun _ => ⟨_, rfl⟩

/-- A class refers to what it extends and to the classes of its types, but not to itself. -/
theorem ClassDecl.mem_references_iff {name : String} : name ∈ c.references ↔
    name ≠ c.name ∧ (c.parent = some name ∨ ∃ p ∈ c.properties, name ∈ p.type.classes) := by
  simp only [references, List.mem_eraseDups, List.mem_mergeSort, List.mem_filter, decide_eq_true_eq]
  rw [and_comm]
  simp

theorem ClassDecl.mem_references {name : String} (hname : name ∈ c.references) :
    c.parent = some name ∨ ∃ p ∈ c.properties, name ∈ p.type.classes :=
  (mem_references_iff.mp hname).2

namespace Manifest

variable {all : List Declaration} {m m' : Manifest}

/-- Compiling leaves alone what classes extend. -/
theorem compiled_parent (hm : Resolve.manifest all = .ok m) (hcompile : m.compile = .ok m')
    (hc : c ∈ m'.classes) {base : String} (hbase : c.parent = some base) : base ∈ m'.names := by
  obtain ⟨done, -, rfl⟩ := compile_outcome hcompile
  obtain ⟨d, hd, rfl⟩ := List.mem_map.mp hc
  have hbases := (Resolve.linked_of_manifest hm).bases d.outline (List.mem_map_of_mem hd) base hbase
  rw [map_name_outlines] at hbases
  rw [Accessor.Progress.names_apply]
  exact hbases

/-- A class refers to classes of the set only. -/
theorem compiled_references (hm : Resolve.manifest all = .ok m) (hcompile : m.compile = .ok m')
    (hc : c ∈ m'.classes) {name : String} (hname : name ∈ c.references) : name ∈ m'.names := by
  rcases ClassDecl.mem_references hname with hparent | ⟨p, hp, hclass⟩
  · exact compiled_parent hm hcompile hc hparent
  · exact (compiled_formed hm hcompile c hc p hp).type.mem name hclass

/-- Whatever is built and compiled is written in every target: each property has a whole type, each
computed one an expression, and a class refers to classes of the set only. The file of a package
is text for any classes. -/
theorem compiled_generates (hm : Resolve.manifest all = .ok m) (hcompile : m.compile = .ok m') :
    ∀ c ∈ m'.classes, (∀ p ∈ c.properties, p.Formed m'.names) ∧
      (∀ name ∈ c.references, name ∈ m'.names) ∧
      ∀ (target : Target) (namespaceName : String),
        ∃ text, target.classFile namespaceName c = .ok text := by
  intro c hc
  have hformed := compiled_formed hm hcompile c hc
  exact ⟨hformed, fun name => compiled_references hm hcompile hc, fun target namespaceName =>
    target.exists_classFile namespaceName hformed⟩

end Manifest

theorem Manifest.compiled_generates_tagged :
    (Sample.itemSame .boolean Sample.sameExpr).Formed Sample.compiled.names ∧
      ∀ target : Target, ∃ text,
        target.classFile "Items" (Sample.itemClass .boolean Sample.sameExpr) = .ok text := by
  have hitem : Sample.itemClass .boolean Sample.sameExpr ∈ Sample.compiled.classes :=
    List.mem_cons_of_mem _ (List.mem_singleton_self _)
  obtain ⟨hformed, -, htext⟩ := compiled_generates Sample.built_eq Sample.compiled_eq _ hitem
  have hsame : Sample.itemSame .boolean Sample.sameExpr ∈
      (Sample.itemClass .boolean Sample.sameExpr).properties :=
    List.mem_cons_of_mem _ (List.mem_cons_of_mem _ (List.mem_singleton_self _))
  exact ⟨hformed _ hsame, fun target => htext target "Items"⟩

end ViewModel
