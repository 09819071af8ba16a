import ViewModel.Proofs.Build.Resolved

/-!
Declarations in another order. What a declaration makes depends on which other classes there are,
not on where they stand, so the same classes come of them, in the other order.
-/

namespace ViewModel

open Source (Declaration Member)

variable {classes classes' : List String}

namespace Hint

theorem named_perm (h : classes.Perm classes') : named classes = named classes' := by
  funext name
  rw [named, named, h.contains_eq]

theorem ofTerm_perm (h : classes.Perm classes') (quoted : String → Except BuildError.Cause TypeRef)
    (hint : Source.Term) : ofTerm classes quoted hint = ofTerm classes' quoted hint := by
  fun_induction ofTerm classes quoted hint with
  | case2 | case3 => rw [ofTerm, named_perm h]
  | case1 | case4 | case5 | case6 | case7 | case8 | case9 | case10 | case11 => simp_all [ofTerm]

theorem ofText_perm (h : classes.Perm classes') (fuel : Nat) :
    ofText classes fuel = ofText classes' fuel := by
  induction fuel with
  | zero => rfl
  | succ fuel ih =>
    funext s
    simp only [ofText, ih, ofTerm_perm h]

theorem type_perm (h : classes.Perm classes') : type classes = type classes' := by
  funext hint
  simp only [type, ofText_perm h, ofTerm_perm h]

end Hint

namespace Field

theorem ofValue?_perm (h : classes.Perm classes') (value : Source.Term) :
    ofValue? classes value = ofValue? classes' value := by
  fun_induction ofValue? classes value with
  | case2 example' ih => rw [ofValue?, ih]
  | case4 | case5 => simp_all [ofValue?, ← h.mem_iff]
  | case1 | case3 | case6 | case7 | case8 => simp_all [ofValue?]

theorem infer_perm (h : classes.Perm classes') : infer classes = infer classes' := by
  have hhint : ofHint classes = ofHint classes' := by
    funext value hint
    simp only [ofHint, Hint.type_perm h]
  have hvalue : ofValue classes = ofValue classes' := by
    funext value hint
    simp only [ofValue, ofValue?_perm h, hhint]
  funext value hint
  simp only [infer, Hint.type_perm h, hhint, hvalue]

end Field

namespace Resolve

variable {all all' : List Declaration} {d : Declaration} {c : ClassDecl} {m : Manifest}

theorem property_perm (h : classes.Perm classes') : property classes = property classes' := by
  funext member
  cases member with
  | field => simp only [property, Field.infer_perm h]
  | accessor => rfl

theorem Declares.perm (h : classes.Perm classes') (hc : Declares classes d c) :
    Declares classes' d c :=
  ⟨hc.name, hc.parent, hc.source, property_perm h ▸ hc.properties⟩

theorem Resolves.perm (h : all.Perm all') (hlinked : Outline.Linked (outlines all))
    (hc : Resolves all d c) : Resolves all' d c := by
  have hbase : base? all = base? all' := Outline.base?_perm h hlinked
  obtain ⟨ancestors, hline, hdecl⟩ := hc
  obtain ⟨hnodup, howners, hdeclares⟩ := classDecl_eq_ok.mp hdecl
  exact ⟨ancestors, hbase ▸ hline,
    classDecl_eq_ok.mpr ⟨hnodup, howners, hdeclares.perm (h.map (·.name))⟩⟩

/-- A build of the same declarations in another order gives the same classes in another order. -/
theorem manifest_perm (h : all.Perm all') (hm : manifest all = .ok m) :
    ∃ m', manifest all' = .ok m' ∧ m.classes.Perm m'.classes := by
  obtain ⟨hlinked, hclasses⟩ := manifest_eq_ok.mp hm
  obtain ⟨classes, hclasses', hperm⟩ := List.perm_comp_forall₂ h.symm hclasses
  refine ⟨⟨classes⟩, manifest_eq_ok.mpr ⟨hlinked.perm (h.map Declaration.outline), ?_⟩, hperm.symm⟩
  exact hclasses'.imp fun _ _ => Resolves.perm h hlinked

end Resolve

end ViewModel
