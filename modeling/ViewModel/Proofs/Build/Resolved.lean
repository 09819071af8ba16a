import ViewModel.Proofs.Build.Fresh
import ViewModel.Proofs.Model.Lineage

/-!
What a build makes of declarations. It looks for the ancestors of every class and fills in classes
in an order of its own, each after those that it extends; here the class of a declaration is told
from its ancestors alone.
-/

namespace ViewModel

open Source (Declaration Member)

def Source.Declaration.outline (d : Declaration) : Outline :=
  ⟨d.name, d.base, d.members.map Member.name⟩

namespace Resolve

variable {all : List Declaration} {d : Declaration} {c : ClassDecl} {classes : List String}
  {ancestors line : List Declaration} {n : Nat}

def outlines (all : List Declaration) : List Outline := all.map Declaration.outline

/-- The class that a declaration extends. -/
def base? (all : List Declaration) : Declaration → Option Declaration :=
  Outline.base? Declaration.outline all

theorem map_name_outlines (all : List Declaration) :
    (outlines all).map Outline.name = all.map (·.name) := by
  simp [outlines, Function.comp_def, Declaration.outline]

theorem eq_of_name (h : Outline.Linked (outlines all)) {e : Declaration} (hd : d ∈ all)
    (he : e ∈ all) (hname : d.name = e.name) : d = e :=
  Outline.eq_of_name h hd he hname

theorem checkNames_eq_ok {seen : List String} :
    checkNames seen all = .ok () ↔
      (all.map (·.name)).Nodup ∧ ∀ d ∈ all, d.name ∉ seen := by
  constructor
  · exact checkNames_nodup
  · intro h
    induction all generalizing seen with
    | nil => rfl
    | cons d rest ih =>
      obtain ⟨hnodup, hseen⟩ := h
      rw [List.map_cons, List.nodup_cons] at hnodup
      have hnew : ¬seen.contains d.name = true := by simpa using hseen d List.mem_cons_self
      rw [checkNames, if_neg hnew]
      refine ih ⟨hnodup.2, fun e he => ?_⟩
      have hne : e.name ≠ d.name := fun heq => hnodup.1 (heq ▸ List.mem_map_of_mem he)
      exact List.not_mem_cons_of_ne_of_not_mem hne (hseen e (List.mem_cons_of_mem _ he))

theorem isSome_find? {name : String} :
    (find? all name).isSome = true ↔ name ∈ all.map (·.name) := by
  simp [find?]

theorem checkBases_eq_ok : checkBases all = .ok () ↔
    ∀ d ∈ all, ∀ base, d.base = some base → base ∈ all.map (·.name) := by
  rw [checkBases, Success.forM_eq_ok]
  refine forall₂_congr fun d _ => ?_
  cases d.base with
  | none => simp
  | some base =>
    simp only [Option.some.injEq, forall_eq', ← isSome_find?]
    cases (find? all base).isSome <;> simp

theorem linked_iff : Outline.Linked (outlines all) ↔
    checkNames [] all = .ok () ∧ checkBases all = .ok () := by
  rw [checkNames_eq_ok, checkBases_eq_ok]
  constructor
  · intro h
    have hnames := h.names
    have hbases := h.bases
    rw [map_name_outlines] at hnames hbases
    exact ⟨⟨hnames, by simp⟩, fun d hd => hbases _ (List.mem_map_of_mem hd)⟩
  · rintro ⟨⟨hnames, -⟩, hbases⟩
    refine ⟨?_, fun o ho base hbase => ?_⟩
    · rw [map_name_outlines]
      exact hnames
    · obtain ⟨d, hd, rfl⟩ := List.mem_map.mp ho
      rw [map_name_outlines]
      exact hbases d hd base hbase

theorem line?_of_last (h : base? all d = none) (n : Nat) : line? all n d = some [d] := by
  have hbase : d.base.bind (find? all) = none := h
  cases n <;> rw [line?, hbase]

theorem line?_of_step {e : Declaration} (h : base? all d = some e) (n : Nat) :
    line? all (n + 1) d = (line? all n e).map (d :: ·) := by
  have hbase : d.base.bind (find? all) = some e := h
  rw [line?, hbase]

theorem line?_zero_of_step {e : Declaration} (h : base? all d = some e) :
    line? all 0 d = none := by
  have hbase : d.base.bind (find? all) = some e := h
  rw [line?, hbase]

/-- A search for ancestors finds the line of a class, where the line is not too long. -/
theorem line?_eq_some :
    line? all n d = some line ↔ Line (base? all) d line ∧ line.length ≤ n + 1 := by
  constructor
  · intro h
    induction n generalizing d line with
    | zero =>
      cases hnext : base? all d with
      | none =>
        rw [line?_of_last hnext] at h
        obtain rfl := Option.some.inj h
        exact ⟨.last hnext, Nat.le_refl _⟩
      | some e =>
        rw [line?_zero_of_step hnext] at h
        cases h
    | succ n ih =>
      cases hnext : base? all d with
      | none =>
        rw [line?_of_last hnext] at h
        obtain rfl := Option.some.inj h
        exact ⟨.last hnext, by simp⟩
      | some e =>
        rw [line?_of_step hnext] at h
        obtain ⟨rest, hrest, rfl⟩ := Option.map_eq_some_iff.mp h
        obtain ⟨hline, hlength⟩ := ih hrest
        exact ⟨.step hnext hline, by rw [List.length_cons]; omega⟩
  · rintro ⟨h, hlength⟩
    induction h generalizing n with
    | last hnone => exact line?_of_last hnone n
    | @step d e as hsome rest ih =>
      obtain ⟨more, rfl⟩ := rest.exists_eq_cons
      rw [List.length_cons] at hlength
      cases n with
      | zero => simp at hlength
      | succ n => rw [line?_of_step hsome, ih (by omega), Option.map_some]

/-- The search for ancestors succeeds exactly where they end. -/
theorem checkLine_eq_ok (h : Outline.Linked (outlines all)) (hd : d ∈ all) :
    checkLine all d = .ok line ↔ Line (base? all) d line := by
  have hsearch : checkLine all d = .ok line ↔ line? all all.length d = some line := by
    unfold checkLine
    cases line? all all.length d <;> simp
  rw [hsearch, line?_eq_some]
  constructor
  · exact And.left
  · intro hline
    have hlength := hline.length_le (Outline.base?_closed h) hd
    exact ⟨hline, by omega⟩

/-- Members become properties where their names are new, distinct and not inherited. -/
theorem properties_eq_ok {className : String} {seen : List String} {members : List Member}
    {ps : List PropertyDecl} :
    properties classes ancestors className seen members = .ok ps ↔
      (∀ member ∈ members, member.name ∉ seen) ∧ (members.map Member.name).Nodup ∧
      (∀ member ∈ members, ancestors.find? (hasMember member.name) = none) ∧
      List.Forall₂ (fun member p => property classes member = .ok p) members ps := by
  constructor
  · intro h
    induction members generalizing seen ps with
    | nil =>
      obtain rfl := Except.ok.inj h
      simp
    | cons member rest ih =>
      obtain ⟨hseen, howner, p, more, hp, hmore, rfl⟩ := properties_cons h
      obtain ⟨hnew, hnodup, howners, hrest⟩ := ih hmore
      have hfirst : member.name ∉ rest.map Member.name := fun hmem => by
        obtain ⟨other, hother, hname⟩ := List.mem_map.mp hmem
        exact hnew other hother (hname ▸ List.mem_cons_self)
      refine ⟨?_, ?_, ?_, .cons hp hrest⟩
      · exact List.forall_mem_cons.mpr
          ⟨hseen, fun other hother hs => hnew other hother (List.mem_cons_of_mem _ hs)⟩
      · rw [List.map_cons, List.nodup_cons]
        exact ⟨hfirst, hnodup⟩
      · exact List.forall_mem_cons.mpr ⟨howner, howners⟩
  · rintro ⟨hnew, hnodup, howners, hps⟩
    induction hps generalizing seen with
    | nil => rfl
    | @cons member p rest ps hp _ ih =>
      rw [List.map_cons, List.nodup_cons] at hnodup
      have hseen : ¬seen.contains member.name = true := by
        simpa using hnew member List.mem_cons_self
      have howner := howners member List.mem_cons_self
      have hnew' : ∀ other ∈ rest, other.name ∉ member.name :: seen := by
        intro other hother hmem
        rcases List.mem_cons.mp hmem with heq | hs
        · exact hnodup.1 (heq ▸ List.mem_map_of_mem hother)
        · exact hnew other (List.mem_cons_of_mem _ hother) hs
      have hrest := ih hnew' hnodup.2 fun other hother =>
        howners other (List.mem_cons_of_mem _ hother)
      unfold properties
      simp only [hseen, howner, hp, hrest]
      rfl

/-- The class that a declaration makes, member by member. -/
structure Declares (classes : List String) (d : Declaration) (c : ClassDecl) : Prop where
  name : c.name = d.name
  parent : c.parent = d.base
  source : c.source = some d.source
  properties : List.Forall₂ (fun member p => property classes member = .ok p)
    d.members c.properties

theorem Declares.outline (h : Declares classes d c) : c.outline = d.outline := by
  have hmembers : c.properties.map PropertyDecl.name = d.members.map Member.name := by
    refine List.forall₂_eq_eq_eq ▸ ?_
    rw [List.forall₂_map_left_iff, List.forall₂_map_right_iff]
    exact h.properties.flip.imp fun p member hp => (property_fresh hp).2
  rw [ClassDecl.outline, Declaration.outline, h.name, h.parent, hmembers]

theorem Declares.unique {e : ClassDecl} (h : Declares classes d c) (h' : Declares classes d e) :
    c = e := by
  have hunique : Relator.RightUnique fun member p => property classes member = .ok p :=
    fun _ _ _ hp hq => Except.ok.inj (hp.symm.trans hq)
  cases c with
  | mk name parent properties source =>
    cases e with
    | mk name' parent' properties' source' =>
      obtain rfl : name = name' := h.name.trans h'.name.symm
      obtain rfl : parent = parent' := h.parent.trans h'.parent.symm
      obtain rfl : source = source' := h.source.trans h'.source.symm
      obtain rfl : properties = properties' :=
        List.right_unique_forall₂' hunique h.properties h'.properties
      rfl

theorem classDecl_eq_ok : classDecl classes ancestors d = .ok c ↔
    (d.members.map Member.name).Nodup ∧
      (∀ member ∈ d.members, ancestors.find? (hasMember member.name) = none) ∧
      Declares classes d c := by
  rw [classDecl, Success.bind_eq_ok]
  constructor
  · rintro ⟨ps, hps, hc⟩
    obtain rfl := Success.pure_eq_ok.mp hc
    obtain ⟨-, hnodup, howners, hproperties⟩ := properties_eq_ok.mp hps
    exact ⟨hnodup, howners, rfl, rfl, rfl, hproperties⟩
  · rintro ⟨hnodup, howners, hc⟩
    refine ⟨c.properties, properties_eq_ok.mpr ⟨by simp, hnodup, howners, hc.properties⟩, ?_⟩
    rw [Success.pure_eq_ok, ← hc.name, ← hc.parent, ← hc.source]

/-- The class that a declaration makes next to its ancestors. -/
def Resolves (all : List Declaration) (d : Declaration) (c : ClassDecl) : Prop :=
  ∃ ancestors, Line (base? all) d (d :: ancestors) ∧
    classDecl (all.map (·.name)) ancestors d = .ok c

theorem Resolves.declares (h : Resolves all d c) : Declares (all.map (·.name)) d c := by
  obtain ⟨_, _, hc⟩ := h
  exact (classDecl_eq_ok.mp hc).2.2

theorem addLine_cons_eq_ok {done filled : List ClassDecl} :
    addLine classes done (d :: ancestors) = .ok filled ↔
      ((∃ c ∈ done, c.name = d.name) ∧ filled = done) ∨
      ((¬∃ c ∈ done, c.name = d.name) ∧ ∃ before c, addLine classes done ancestors = .ok before ∧
        classDecl classes ancestors d = .ok c ∧ filled = before ++ [c]) := by
  have hany : done.any (fun c => c.name == d.name) = true ↔ ∃ c ∈ done, c.name = d.name := by
    simp
  rw [addLine]
  by_cases hdone : ∃ c ∈ done, c.name = d.name
  · rw [if_pos (hany.mpr hdone), Success.pure_eq_ok]
    simp only [hdone, true_and, not_true_eq_false, false_and, or_false]
    exact eq_comm
  · rw [if_neg (fun h => hdone (hany.mp h))]
    simp only [hdone, false_and, not_false_eq_true, true_and, false_or, Success.bind_eq_ok,
      Success.pure_eq_ok]
    constructor
    · rintro ⟨before, hbefore, c, hc, rfl⟩
      exact ⟨before, c, hbefore, hc, rfl⟩
    · rintro ⟨before, c, hbefore, hc, rfl⟩
      exact ⟨before, hbefore, c, hc, rfl⟩

/-- What filling keeps: every class that is there is what a declaration makes. -/
def Filled (all : List Declaration) (done : List ClassDecl) : Prop :=
  ∀ c ∈ done, ∃ d ∈ all, Resolves all d c

/-- Adding a line adds its first class, and only what declarations make. -/
theorem addLine_keeps (hline : Line (base? all) d line) (hsubset : line ⊆ all)
    {done filled : List ClassDecl} (hdone : Filled all done)
    (h : addLine (all.map (·.name)) done line = .ok filled) :
    Filled all filled ∧ done ⊆ filled ∧ ∃ c ∈ filled, c.name = d.name := by
  have added {d : Declaration} {ancestors : List Declaration} {before : List ClassDecl}
      {c : ClassDecl} (hd : d ∈ all) (hline : Line (base? all) d (d :: ancestors))
      (hc : classDecl (all.map (·.name)) ancestors d = .ok c) (hbefore : Filled all before) :
      Filled all (before ++ [c]) ∧ ∃ e ∈ before ++ [c], e.name = d.name := by
    refine ⟨fun e he => ?_, c, by simp, (classDecl_fresh hc).2⟩
    rcases List.mem_append.mp he with he | he
    · exact hbefore e he
    · obtain rfl := List.mem_singleton.mp he
      exact ⟨d, hd, ancestors, hline, hc⟩
  -- On the line: what stands behind the first class is the line of the class that it extends.
  induction hline generalizing filled with
  | last hnone =>
    have hd := hsubset List.mem_cons_self
    rcases addLine_cons_eq_ok.mp h with ⟨hthere, rfl⟩ | ⟨-, before, c, hbefore, hc, rfl⟩
    · exact ⟨hdone, List.Subset.refl _, hthere⟩
    · obtain rfl := Except.ok.inj hbefore
      obtain ⟨hfilled, hmem⟩ := added hd (.last hnone) hc hdone
      exact ⟨hfilled, List.subset_append_left _ _, hmem⟩
  | step hsome rest ih =>
    have hd := hsubset List.mem_cons_self
    rcases addLine_cons_eq_ok.mp h with ⟨hthere, rfl⟩ | ⟨-, before, c, hbefore, hc, rfl⟩
    · exact ⟨hdone, List.Subset.refl _, hthere⟩
    · obtain ⟨hfilledBefore, hmore, -⟩ := ih (List.cons_subset.mp hsubset).2 hbefore
      obtain ⟨hfilled, hmem⟩ := added hd (.step hsome rest) hc hfilledBefore
      exact ⟨hfilled, List.Subset.trans hmore (List.subset_append_left _ _), hmem⟩

/-- A line can be added where every declaration on it makes a class. -/
theorem addLine_succeeds (hline : Line (base? all) d line) (hsubset : line ⊆ all)
    (hall : ∀ e ∈ all, ∃ c, Resolves all e c) (done : List ClassDecl) :
    ∃ filled, addLine (all.map (·.name)) done line = .ok filled := by
  have added {d : Declaration} {ancestors : List Declaration} {before : List ClassDecl}
      (hd : d ∈ all) (hline : Line (base? all) d (d :: ancestors))
      (hbefore : addLine (all.map (·.name)) done ancestors = .ok before) :
      ∃ filled, addLine (all.map (·.name)) done (d :: ancestors) = .ok filled := by
    obtain ⟨c, ancestors', hline', hc⟩ := hall d hd
    obtain rfl := (List.cons.inj (hline.unique hline')).2
    by_cases hthere : ∃ c ∈ done, c.name = d.name
    · exact ⟨done, addLine_cons_eq_ok.mpr (.inl ⟨hthere, rfl⟩)⟩
    · exact ⟨_, addLine_cons_eq_ok.mpr (.inr ⟨hthere, before, c, hbefore, hc, rfl⟩)⟩
  induction hline with
  | last hnone => exact added (hsubset List.mem_cons_self) (.last hnone) rfl
  | step hsome rest ih =>
    obtain ⟨hd, hsubset'⟩ := List.cons_subset.mp hsubset
    obtain ⟨before, hbefore⟩ := ih hsubset'
    exact added hd (.step hsome rest) hbefore

/-- Adding lines one after the other adds the first class of each. -/
theorem foldlM_addLine_keeps {ds : List Declaration} {lines : List (List Declaration)}
    (hlines : List.Forall₂ (fun d line => Line (base? all) d line ∧ line ⊆ all) ds lines)
    {done filled : List ClassDecl} (hdone : Filled all done)
    (h : lines.foldlM (addLine (all.map (·.name))) done = .ok filled) :
    Filled all filled ∧ done ⊆ filled ∧ ∀ d ∈ ds, ∃ c ∈ filled, c.name = d.name := by
  induction hlines generalizing done with
  | nil =>
    rw [List.foldlM_nil, Success.pure_eq_ok] at h
    subst h
    exact ⟨hdone, List.Subset.refl _, by simp⟩
  | cons hline _ ih =>
    rw [List.foldlM_cons] at h
    obtain ⟨next, hnext, hrest⟩ := Success.bind_eq_ok.mp h
    obtain ⟨hfilledNext, hmore, c, hc, hname⟩ := addLine_keeps hline.1 hline.2 hdone hnext
    obtain ⟨hfilled, hmore', hnames⟩ := ih hfilledNext hrest
    exact ⟨hfilled, List.Subset.trans hmore hmore',
      List.forall_mem_cons.mpr ⟨⟨c, hmore' hc, hname⟩, hnames⟩⟩

theorem foldlM_addLine_succeeds {ds : List Declaration} {lines : List (List Declaration)}
    (hlines : List.Forall₂ (fun d line => Line (base? all) d line ∧ line ⊆ all) ds lines)
    (hall : ∀ e ∈ all, ∃ c, Resolves all e c) (done : List ClassDecl) :
    ∃ filled, lines.foldlM (addLine (all.map (·.name))) done = .ok filled := by
  induction hlines generalizing done with
  | nil => exact ⟨done, rfl⟩
  | cons hline _ ih =>
    obtain ⟨next, hnext⟩ := addLine_succeeds hline.1 hline.2 hall done
    obtain ⟨filled, hfilled⟩ := ih next
    exact ⟨filled, by rw [List.foldlM_cons, hnext]; exact hfilled⟩

/-- The class of each declaration is found among what is filled. -/
theorem forall₂_filterMap_find? (h : Outline.Linked (outlines all)) {filled : List ClassDecl}
    (hfilled : Filled all filled) {ds : List Declaration} (hds : ds ⊆ all)
    (hnames : ∀ d ∈ ds, ∃ c ∈ filled, c.name = d.name) :
    List.Forall₂ (Resolves all) ds
      (ds.filterMap fun d => filled.find? fun c => c.name == d.name) := by
  induction ds with
  | nil => exact .nil
  | cons d ds ih =>
    obtain ⟨hd, hds'⟩ := List.cons_subset.mp hds
    obtain ⟨⟨c, hc, hname⟩, hnames'⟩ := List.forall_mem_cons.mp hnames
    have hsome : (filled.find? fun c => c.name == d.name).isSome = true :=
      List.find?_isSome.mpr ⟨c, hc, by simpa using hname⟩
    obtain ⟨e, he⟩ := Option.isSome_iff_exists.mp hsome
    obtain ⟨d', hd', hresolves⟩ := hfilled e (List.mem_of_find?_eq_some he)
    have hename : e.name = d.name := by simpa using List.find?_some he
    have hsame : d' = d := eq_of_name h hd' hd (hresolves.declares.name.symm.trans hename)
    rw [List.filterMap_cons, he]
    exact .cons (hsame ▸ hresolves) (ih hds' hnames')

theorem mapM_checkLine_eq_ok (h : Outline.Linked (outlines all))
    {lines : List (List Declaration)} : all.mapM (checkLine all) = .ok lines ↔
      List.Forall₂ (fun d line => Line (base? all) d line ∧ line ⊆ all) all lines := by
  have within (hlines : List.Forall₂ (fun d line => checkLine all d = .ok line) all lines) :
      List.Forall₂ (fun d line => d ∈ all ∧ checkLine all d = .ok line) all lines :=
    (List.forall₂_and_left _ _).mpr ⟨fun _ hd => hd, hlines⟩
  rw [Success.mapM_eq_ok]
  constructor
  · intro hlines
    refine (within hlines).imp fun d line ⟨hd, hcheck⟩ => ?_
    have hline := (checkLine_eq_ok h hd).mp hcheck
    exact ⟨hline, hline.subset (Outline.base?_closed h) hd⟩
  · intro hlines
    refine hlines.imp fun d line ⟨hline, hsubset⟩ => ?_
    exact (checkLine_eq_ok h (hsubset (hline.mem_iff.mpr .refl))).mpr hline

theorem Resolves.unique {e : ClassDecl} (h : Resolves all d c) (h' : Resolves all d e) : c = e :=
  h.declares.unique h'.declares

/-- A build gives a manifest exactly where classes are told apart and found by their names, and
every declaration makes a class next to its ancestors; these are the classes, in order. -/
theorem manifest_eq_ok {m : Manifest} : manifest all = .ok m ↔
    Outline.Linked (outlines all) ∧ List.Forall₂ (Resolves all) all m.classes := by
  have classes_resolve {m : Manifest} (h : manifest all = .ok m) :
      Outline.Linked (outlines all) ∧ List.Forall₂ (Resolves all) all m.classes := by
    obtain ⟨_, hnames, h⟩ := Success.bind_eq_ok.mp h
    obtain ⟨_, hbases, h⟩ := Success.bind_eq_ok.mp h
    obtain ⟨lines, hlines, h⟩ := Success.bind_eq_ok.mp h
    obtain ⟨filled, hfilled, h⟩ := Success.bind_eq_ok.mp h
    obtain rfl := Success.pure_eq_ok.mp h
    have hlinked := linked_iff.mpr ⟨hnames, hbases⟩
    obtain ⟨hkept, -, hthere⟩ := foldlM_addLine_keeps ((mapM_checkLine_eq_ok hlinked).mp hlines)
      (by simp [Filled]) hfilled
    exact ⟨hlinked, forall₂_filterMap_find? hlinked hkept (List.Subset.refl _) hthere⟩
  constructor
  · exact classes_resolve
  · rintro ⟨hlinked, hclasses⟩
    have hall : ∀ d ∈ all, ∃ c, Resolves all d c := by
      intro d hd
      obtain ⟨c, -, hc⟩ := Success.exists_right hclasses hd
      exact ⟨c, hc⟩
    have hchecked : ∀ d ∈ all, ∃ line, checkLine all d = .ok line := by
      intro d hd
      obtain ⟨c, ancestors, hline, -⟩ := hall d hd
      exact ⟨_, (checkLine_eq_ok hlinked hd).mpr hline⟩
    obtain ⟨hnames, hbases⟩ := linked_iff.mp hlinked
    obtain ⟨lines, hlines⟩ := Success.exists_mapM_eq_ok.mpr hchecked
    obtain ⟨filled, hfilled⟩ :=
      foldlM_addLine_succeeds ((mapM_checkLine_eq_ok hlinked).mp hlines) hall []
    have hfound : manifest all =
        .ok ⟨all.filterMap fun d => filled.find? fun c => c.name == d.name⟩ := by
      rw [manifest, hnames, hbases, hlines]
      show (lines.foldlM (addLine (all.map (·.name))) [] >>= fun filled => _) = _
      rw [hfilled]
      rfl
    have hunique : Relator.RightUnique (Resolves all) := fun _ _ _ => Resolves.unique
    have hsame := List.right_unique_forall₂' hunique (classes_resolve hfound).2 hclasses
    rw [hfound]
    exact congrArg (fun classes => Except.ok (Manifest.mk classes)) hsame

end Resolve

end ViewModel
