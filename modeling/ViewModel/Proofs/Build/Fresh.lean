import ViewModel.Build.Resolve
import ViewModel.Proofs.Model.Type
import ViewModel.Proofs.Success

/-!
What a build establishes before any accessor is compiled: names are distinct, every field has its
whole type, and a computed property has an accessor and nothing else.
-/

namespace ViewModel

open Source (Declaration Member)

namespace Hint

theorem named_formed {classes : List String} {name : String} {t : TypeRef}
    (h : named classes name = .ok t) : t.Formed classes := by
  unfold named at h
  split at h
  · next p hp =>
    obtain rfl := Except.ok.inj h
    unfold primitive? at hp
    split at hp <;> simp at hp <;> subst hp <;> exact .primitive _
  · split at h
    next hclass =>
      obtain rfl := Except.ok.inj h
      exact .reference (List.contains_iff_mem.mp hclass)
    · simp at h

theorem ofTerm_formed {classes : List String} {quoted : String → Except BuildError.Cause TypeRef}
    (hquoted : ∀ s t, quoted s = .ok t → t.Formed classes) {hint : Source.Term} {t : TypeRef}
    (h : ofTerm classes quoted hint = .ok t) : t.Formed classes := by
  fun_induction ofTerm classes quoted hint generalizing t with
  | case1 s => exact hquoted s t h
  | case2 | case3 => exact named_formed h
  | case4 outer inner hname ih =>
    obtain ⟨u, hu, rfl⟩ := Success.map_eq_ok.mp h
    exact (ih hu).orNull
  | case5 outer inner name hne hname hsequence ih =>
    obtain ⟨u, hu, rfl⟩ := Success.map_eq_ok.mp h
    exact .sequence (ih hu)
  | case8 left right hleft hright ih | case9 left right hleft hright ih =>
    obtain ⟨u, hu, rfl⟩ := Success.map_eq_ok.mp h
    exact (ih hu).orNull
  | case6 | case7 | case10 | case11 => simp at h

theorem ofText_formed {classes : List String} {fuel : Nat} {s : String} {t : TypeRef}
    (h : ofText classes fuel s = .ok t) : t.Formed classes := by
  induction fuel generalizing s t with
  | zero => simp [ofText] at h
  | succ fuel ih =>
    unfold ofText at h
    split at h
    · simp at h
    · split at h
      · exact ofTerm_formed (fun _ _ => ih) h
      · simp at h

theorem type_formed {classes : List String} {hint : Source.Term} {t : TypeRef}
    (h : type classes hint = .ok t) : t.Formed classes :=
  ofTerm_formed (fun _ _ => ofText_formed) h

end Hint

namespace Field

theorem literal?_formed {classes : List String} {value : Source.Term} {r : TypeRef × Scalar}
    (h : literal? value = some r) : r.1.Formed classes := by
  unfold literal? at h
  split at h <;> (try split at h) <;> simp at h <;> subst h <;> exact .primitive _

theorem ofValue?_formed {classes : List String} {value : Source.Term} {r : TypeRef × Scalar}
    (h : ofValue? classes value = .ok (some r)) : r.1.Formed classes := by
  fun_induction ofValue? classes value generalizing r with
  | case1 => simp at h
  | case2 example' ih =>
    obtain ⟨o, ho, hr⟩ := Success.bind_eq_ok.mp h
    cases o with
    | none => simp at hr
    | some o =>
      simp only [pure, Except.pure, Except.ok.injEq, Option.some.injEq] at hr
      subst hr
      exact .sequence (ih ho)
  | case3 => simp at h
  | case4 function name hname hclass =>
    obtain rfl := Option.some.inj (Except.ok.inj h)
    exact .reference (List.contains_iff_mem.mp hclass)
  | case5 | case6 => simp at h
  | case7 value _ _ _ _ l hl =>
    obtain rfl := Option.some.inj (Except.ok.inj h)
    exact literal?_formed hl
  | case8 => simp at h

theorem ofHint_formed {classes : List String} {value hint : Option Source.Term}
    {r : TypeRef × Scalar} (h : ofHint classes value hint = .ok r) : r.1.Formed classes := by
  cases hint with
  | none => simp [ofHint] at h
  | some hint =>
    obtain ⟨t, ht, hr⟩ := Success.bind_eq_ok.mp h
    obtain rfl := Success.pure_eq_ok.mp hr
    have hformed := Hint.type_formed ht
    cases value with
    | none => exact hformed
    | some value => exact hformed.orNull

theorem ofValue_formed {classes : List String} {value : Source.Term}
    {hint : Option Source.Term} {r : TypeRef × Scalar} (h : ofValue classes value hint = .ok r) :
    r.1.Formed classes := by
  obtain ⟨o, ho, hr⟩ := Success.bind_eq_ok.mp h
  cases o with
  | none => exact ofHint_formed hr
  | some o =>
    obtain rfl := Success.pure_eq_ok.mp hr
    exact ofValue?_formed ho

theorem infer_formed {classes : List String} {value hint : Option Source.Term}
    {r : TypeRef × Scalar} (h : infer classes value hint = .ok r) : r.1.Formed classes := by
  unfold infer at h
  split at h
  · split at h
    · obtain ⟨t, ht, hr⟩ := Success.bind_eq_ok.mp h
      have hformed := Hint.type_formed ht
      cases t with
      | sequence t =>
        obtain rfl := Success.pure_eq_ok.mp hr
        exact hformed
      | _ => simp at hr
    · exact ofValue_formed h
  · exact ofValue_formed h
  · exact ofHint_formed h

end Field

/-- A property as a build leaves it: a field has its type, a computed property has only its
accessor. -/
structure PropertyDecl.Fresh (p : PropertyDecl) : Prop where
  field : p.computed = false → p.type.isProper = true
  untyped : p.computed = true → p.type = .unresolved
  untouched : p.expression = .hole
  accessor : p.computed = true → p.accessor.isSome = true

/-- A manifest as a build leaves it. -/
structure Manifest.Fresh (m : Manifest) : Prop where
  names : m.names.Nodup
  propertyNames : ∀ c ∈ m.classes, (c.properties.map PropertyDecl.name).Nodup
  properties : ∀ c ∈ m.classes, ∀ p ∈ c.properties, p.Fresh

namespace Resolve

theorem property_formed {classes : List String} {member : Member} {p : PropertyDecl}
    (h : property classes member = .ok p) (hfield : p.computed = false) :
    p.type.Formed classes := by
  cases member with
  | field name line value hint =>
    obtain ⟨⟨t, default⟩, ht, hp⟩ := Success.bind_eq_ok.mp h
    obtain rfl := Success.pure_eq_ok.mp hp
    exact Field.infer_formed ht
  | accessor name line expression returns =>
    obtain rfl := Except.ok.inj h
    cases hfield

theorem property_fresh {classes : List String} {member : Member} {p : PropertyDecl}
    (h : property classes member = .ok p) : p.Fresh ∧ p.name = member.name := by
  cases member with
  | field name line value hint =>
    obtain ⟨⟨t, default⟩, ht, hp⟩ := Success.bind_eq_ok.mp h
    obtain rfl := Success.pure_eq_ok.mp hp
    exact ⟨⟨fun _ => (Field.infer_formed ht).isProper, by simp, rfl, by simp⟩, rfl⟩
  | accessor name line expression returns =>
    obtain rfl := Except.ok.inj h
    exact ⟨⟨by simp, fun _ => rfl, rfl, fun _ => rfl⟩, rfl⟩

/-- What the properties of a class say when there are any: the first is new, neither seen before
nor inherited. -/
theorem properties_cons {classes : List String} {ancestors : List Declaration}
    {className : String} {seen : List String} {member : Member} {rest : List Member}
    {ps : List PropertyDecl}
    (h : properties classes ancestors className seen (member :: rest) = .ok ps) :
    member.name ∉ seen ∧ ancestors.find? (hasMember member.name) = none ∧
      ∃ p more, property classes member = .ok p ∧
        properties classes ancestors className (member.name :: seen) rest = .ok more ∧
        ps = p :: more := by
  unfold properties at h
  by_cases hseen : seen.contains member.name = true
  · simp only [hseen, if_true] at h
    cases h
  cases hfind : ancestors.find? (hasMember member.name) with
  | some owner =>
    simp only [hseen, hfind] at h
    cases h
  | none =>
    simp only [hseen, hfind] at h
    obtain ⟨p, hp, h⟩ := Success.bind_eq_ok.mp h
    obtain ⟨more, hmore, h⟩ := Success.bind_eq_ok.mp h
    exact ⟨by simpa using hseen, rfl, p, more, Success.mapError_eq_ok.mp hp, hmore,
      (Success.pure_eq_ok.mp h).symm⟩

/-- Each property is declared once, and none of those seen before is declared again. -/
theorem properties_fresh {classes : List String} {ancestors : List Declaration}
    {className : String} {seen : List String} {members : List Member} {ps : List PropertyDecl}
    (h : properties classes ancestors className seen members = .ok ps) :
    (∀ p ∈ ps, p.Fresh ∧ p.name ∉ seen) ∧ (ps.map PropertyDecl.name).Nodup := by
  induction members generalizing seen ps with
  | nil =>
    obtain rfl := Except.ok.inj h
    simp
  | cons member rest ih =>
    obtain ⟨hseen, -, p, more, hp, hmore, rfl⟩ := properties_cons h
    obtain ⟨hfresh, hname⟩ := property_fresh hp
    obtain ⟨hrest, hnodup⟩ := ih hmore
    constructor
    · intro q hq
      rcases List.mem_cons.mp hq with rfl | hq
      · exact ⟨hfresh, hname ▸ hseen⟩
      · exact ⟨(hrest q hq).1, fun hs => (hrest q hq).2 (List.mem_cons_of_mem _ hs)⟩
    · rw [List.map_cons, List.nodup_cons]
      refine ⟨fun hmem => ?_, hnodup⟩
      obtain ⟨q, hq, hqname⟩ := List.mem_map.mp hmem
      exact (hrest q hq).2 (by simp [hqname, hname])

/-- A class of which the properties are all that a build has to say. -/
def FreshClass (c : ClassDecl) : Prop :=
  (∀ p ∈ c.properties, p.Fresh) ∧ (c.properties.map PropertyDecl.name).Nodup

theorem classDecl_fresh {classes : List String} {ancestors : List Declaration} {d : Declaration}
    {c : ClassDecl} (h : classDecl classes ancestors d = .ok c) :
    FreshClass c ∧ c.name = d.name := by
  obtain ⟨ps, hps, hc⟩ := Success.bind_eq_ok.mp h
  obtain rfl := Success.pure_eq_ok.mp hc
  obtain ⟨hfresh, hnodup⟩ := properties_fresh hps
  exact ⟨⟨fun p hp => (hfresh p hp).1, hnodup⟩, rfl⟩

theorem addLine_fresh {classes : List String} {done filled : List ClassDecl}
    {line : List Declaration} (hdone : ∀ c ∈ done, FreshClass c)
    (h : addLine classes done line = .ok filled) : ∀ c ∈ filled, FreshClass c := by
  induction line generalizing filled with
  | nil =>
    obtain rfl := Except.ok.inj h
    exact hdone
  | cons d ancestors ih =>
    unfold addLine at h
    split at h
    · obtain rfl := Success.pure_eq_ok.mp h
      exact hdone
    · obtain ⟨before, hbefore, h⟩ := Success.bind_eq_ok.mp h
      obtain ⟨c, hc, h⟩ := Success.bind_eq_ok.mp h
      obtain rfl := Success.pure_eq_ok.mp h
      intro e he
      rcases List.mem_append.mp he with he | he
      · exact ih hbefore e he
      · obtain rfl := List.mem_singleton.mp he
        exact (classDecl_fresh hc).1

theorem checkNames_nodup {seen : List String} {all : List Declaration}
    (h : checkNames seen all = .ok ()) :
    (all.map (·.name)).Nodup ∧ ∀ d ∈ all, d.name ∉ seen := by
  induction all generalizing seen with
  | nil => simp
  | cons d rest ih =>
    unfold checkNames at h
    split at h
    · simp at h
    next hseen =>
    obtain ⟨hnodup, hrest⟩ := ih h
    constructor
    · rw [List.map_cons, List.nodup_cons]
      refine ⟨fun hmem => ?_, hnodup⟩
      obtain ⟨e, he, hname⟩ := List.mem_map.mp hmem
      exact hrest e he (by simp [hname])
    · intro e he
      rcases List.mem_cons.mp he with rfl | he
      · simpa using hseen
      · exact fun hs => hrest e he (List.mem_cons_of_mem _ hs)

/-- Classes that are found by the names of a list have those of the names that are found. -/
theorem filterMap_find_names (filled : List ClassDecl) (all : List Declaration) :
    ((all.filterMap (fun d => filled.find? (fun c => c.name == d.name))).map
      ClassDecl.name).Sublist (all.map (·.name)) := by
  induction all with
  | nil => simp
  | cons d rest ih =>
    rw [List.filterMap_cons]
    split
    · exact ih.cons _
    · next c hc =>
      have hname : c.name = d.name := by simpa using List.find?_some hc
      rw [List.map_cons, List.map_cons, hname]
      exact ih.cons_cons _

/-- A build leaves every class fresh, each under a name of its own. -/
theorem manifest_fresh {all : List Declaration} {m : Manifest} (h : manifest all = .ok m) :
    m.Fresh := by
  obtain ⟨_, hnames, h⟩ := Success.bind_eq_ok.mp h
  obtain ⟨_, -, h⟩ := Success.bind_eq_ok.mp h
  obtain ⟨lines, -, h⟩ := Success.bind_eq_ok.mp h
  obtain ⟨filled, hfilled, h⟩ := Success.bind_eq_ok.mp h
  obtain rfl := Success.pure_eq_ok.mp h
  have hfresh : ∀ c ∈ filled, FreshClass c :=
    Success.foldlM_keeps (fun _ _ _ _ hdone hline => addLine_fresh hdone hline) (by simp) hfilled
  have hmem {c : ClassDecl} (hc : c ∈ all.filterMap (fun d =>
      filled.find? (fun c => c.name == d.name))) : FreshClass c := by
    obtain ⟨d, -, hd⟩ := List.mem_filterMap.mp hc
    exact hfresh c (List.mem_of_find?_eq_some hd)
  exact ⟨(checkNames_nodup hnames).1.sublist (filterMap_find_names filled all),
    fun c hc => (hmem hc).2, fun c hc => (hmem hc).1⟩

end Resolve

end ViewModel
