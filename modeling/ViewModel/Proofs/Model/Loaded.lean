import ViewModel.Model.Document
import ViewModel.Proofs.Model.Lineage
import ViewModel.Proofs.Success

/-!
What is loaded from a document. Loading tells classes apart by their names and finds every class
that is extended, but it does not ask whether classes fit together: that is up to the document.
-/

namespace ViewModel

open Relation (TransGen)

namespace Document

variable {es : List (String × Value)} {key : String} {v : Value}

theorem required_of_find? (h : Entries.find? es key = some v) : required es key = .ok ⟨v, h⟩ := by
  unfold required
  have hattach : (Entries.find? es key).attach = some ⟨v, h⟩ := by
    rw [Option.attach_eq_some_iff]
    exact h
  rw [hattach]

/-- The elements under a key, of which there are none where it is left out. -/
def listing (es : List (String × Value)) (key : String) : Except DocumentError (List Value) :=
  match Entries.find? es key with
  | some v => elements v
  | none => pure []

/-- The text under a key, where a document has one there. -/
def textAt? (v : Value) (key : String) : Option String :=
  match v with
  | .mapping es =>
      match entry es key with
      | .text s => some s
      | _ => none
  | _ => none

/-- The elements under a key, where a document has some there. -/
def elementsAt (v : Value) (key : String) : List Value :=
  match v with
  | .mapping es =>
      match listing es key with
      | .ok vs => vs
      | .error _ => []
  | _ => []

/-- The names that the entry of a class gives. -/
def outline (v : Value) : Outline :=
  ⟨(textAt? v "name").getD "", textAt? v "parent",
    (elementsAt v "properties").map fun p => (textAt? p "name").getD ""⟩

/-- The names that a document gives to classes, to what they extend and to their properties. -/
def outlines (v : Value) : List Outline := (elementsAt v "classes").map outline

theorem textAt?_of_required {r : { v : Value // Entries.find? es key = some v }} {s : String}
    (hr : required es key = .ok r) (hs : text r.1 = .ok s) :
    textAt? (.mapping es) key = some s := by
  obtain ⟨w, hw⟩ := r
  cases w with
  | text t =>
    obtain rfl := Except.ok.inj hs
    simp [textAt?, entry, hw]
  | _ => cases hs

end Document

open Document

/-- A property keeps the name that its entry gives. -/
theorem PropertyDecl.textAt?_name {v : Value} {p : PropertyDecl} (h : ofValue v = .ok p) :
    textAt? v "name" = some p.name := by
  cases v with
  | mapping es =>
    obtain ⟨r, hr, h⟩ := Success.bind_eq_ok.mp h
    obtain ⟨name, hname, h⟩ := Success.bind_eq_ok.mp h
    obtain ⟨type, -, h⟩ := Success.bind_eq_ok.mp h
    obtain ⟨computed, -, h⟩ := Success.bind_eq_ok.mp h
    obtain ⟨expression, -, h⟩ := Success.bind_eq_ok.mp h
    obtain ⟨default, -, h⟩ := Success.bind_eq_ok.mp h
    obtain rfl := Success.pure_eq_ok.mp h
    exact textAt?_of_required hr hname
  | _ => cases h

namespace ClassDecl

variable {v : Value} {c : ClassDecl} {names : List String}

theorem ofValue_mapping (es : List (String × Value)) : ofValue (.mapping es) = do
    let name ← text (← required es "name").1
    let properties ← (← listing es "properties").mapM PropertyDecl.ofValue
    return { name, properties, source := ← text? (entry es "source") } := by
  rw [ofValue, listing]
  cases Entries.find? es "properties" with
  | some v => rfl
  | none => simp

theorem ofValue_eq_ok : ofValue v = .ok c ↔ ∃ es, v = .mapping es ∧
    (∃ r, required es "name" = .ok r ∧ text r.1 = .ok c.name) ∧
    (∃ ps, listing es "properties" = .ok ps ∧
      List.Forall₂ (fun p q => PropertyDecl.ofValue p = .ok q) ps c.properties) ∧
    text? (entry es "source") = .ok c.source ∧ c.parent = none := by
  cases v with
  | mapping es =>
    simp only [ofValue_mapping, Success.bind_eq_ok, Success.pure_eq_ok, Success.mapM_eq_ok,
      Value.mapping.injEq, exists_eq_left']
    constructor
    · rintro ⟨r, hr, name, hname, ps, hps, properties, hproperties, source, hsource, rfl⟩
      exact ⟨⟨r, hr, hname⟩, ⟨ps, hps, hproperties⟩, hsource, rfl⟩
    · rintro ⟨⟨r, hr, hname⟩, ⟨ps, hps, hproperties⟩, hsource, hparent⟩
      refine ⟨r, hr, _, hname, ps, hps, _, hproperties, _, hsource, ?_⟩
      rw [← hparent]
  | _ => simp [ofValue]

/-- The class that is loaded from an entry, among classes of these names. -/
def Loads (names : List String) (v : Value) (c : ClassDecl) : Prop :=
  ∃ bare parent, ofValue v = .ok bare ∧ parentOfValue names v = .ok parent ∧
    c = { bare with parent := parent }

/-- A parent is the class that the entry names, and one of those that there are. -/
theorem parentOfValue_eq_ok {parent : Option String} (h : parentOfValue names v = .ok parent) :
    textAt? v "parent" = parent ∧ ∀ base, parent = some base → base ∈ names := by
  cases v with
  | mapping es =>
    unfold parentOfValue at h
    unfold textAt?
    dsimp only at h ⊢
    cases hparent : entry es "parent" with
    | null =>
      rw [hparent] at h
      obtain rfl := Except.ok.inj h
      simp
    | text s =>
      rw [hparent] at h
      dsimp only at h
      split at h
      · next hs =>
        obtain rfl := Except.ok.inj h
        simpa using hs
      · cases h
    | _ =>
      rw [hparent] at h
      cases h
  | _ =>
    obtain rfl := Except.ok.inj h
    simp [textAt?]

/-- A class has the names that its entry gives. -/
theorem Loads.outline (h : Loads names v c) : Document.outline v = c.outline := by
  obtain ⟨bare, parent, hbare, hparent, rfl⟩ := h
  obtain ⟨es, rfl, ⟨r, hr, hname⟩, ⟨ps, hps, hproperties⟩, -, -⟩ := ofValue_eq_ok.mp hbare
  have hlisted : elementsAt (.mapping es) "properties" = ps := by
    simp [elementsAt, hps]
  have hnames : ps.map (fun p => (textAt? p "name").getD "") =
      bare.properties.map PropertyDecl.name := by
    refine List.forall₂_eq_eq_eq ▸ ?_
    rw [List.forall₂_map_left_iff, List.forall₂_map_right_iff]
    refine hproperties.imp fun p q hq => ?_
    rw [PropertyDecl.textAt?_name hq, Option.getD_some]
  rw [Document.outline, hlisted, hnames, textAt?_of_required hr hname,
    (parentOfValue_eq_ok hparent).1]
  rfl

end ClassDecl

namespace Manifest

variable {v : Value} {m n : Manifest} {c : ClassDecl} {names : List String}
  {entries : List Value} {classes : List ClassDecl}

theorem add?_eq_some : m.add? c = some n ↔ c.name ∉ m.names ∧ n = ⟨m.classes ++ [c]⟩ := by
  have hthere : (m.class? c.name).isSome = true ↔ c.name ∈ m.names := by
    simp [class?, names]
  unfold add?
  by_cases h : c.name ∈ m.names
  · simp [hthere.mpr h, h]
  · simp only [mt hthere.mp h, h]
    simp [eq_comm]

/-- Entries are added where their classes have names that are new and distinct. -/
theorem addEntries_eq_ok : m.addEntries entries = .ok n ↔
    ∃ cs, List.Forall₂ (fun v c => ClassDecl.ofValue v = .ok c) entries cs ∧
      (∀ c ∈ cs, c.name ∉ m.names) ∧ (cs.map ClassDecl.name).Nodup ∧
      n = ⟨m.classes ++ cs⟩ := by
  induction entries generalizing m with
  | nil =>
    rw [addEntries]
    constructor
    · intro h
      obtain rfl := Except.ok.inj h
      exact ⟨[], .nil, by simp, List.nodup_nil, by simp⟩
    · rintro ⟨cs, hcs, -, -, rfl⟩
      obtain rfl := List.forall₂_nil_left_iff.mp hcs
      simp
  | cons v rest ih =>
    rw [addEntries, Success.bind_eq_ok]
    constructor
    · rintro ⟨c, hc, hrest⟩
      cases hadd : m.add? c with
      | none => simp [hadd] at hrest
      | some next =>
        rw [hadd] at hrest
        obtain ⟨hnew, rfl⟩ := add?_eq_some.mp hadd
        obtain ⟨cs, hcs, hothers, hnodup, rfl⟩ := ih.mp hrest
        have hdifferent : ∀ d ∈ cs, d.name ∉ m.names ∧ d.name ≠ c.name := by
          intro d hd
          simpa [names, not_or] using hothers d hd
        refine ⟨c :: cs, .cons hc hcs, ?_, ?_, by simp⟩
        · exact List.forall_mem_cons.mpr ⟨hnew, fun d hd => (hdifferent d hd).1⟩
        · rw [List.map_cons, List.nodup_cons]
          refine ⟨fun hmem => ?_, hnodup⟩
          obtain ⟨d, hd, hname⟩ := List.mem_map.mp hmem
          exact (hdifferent d hd).2 hname
    · rintro ⟨cs, hcs, hothers, hnodup, rfl⟩
      obtain ⟨c, ds, hc, hds, rfl⟩ := List.forall₂_cons_left_iff.mp hcs
      rw [List.map_cons, List.nodup_cons] at hnodup
      obtain ⟨hnew, hothers⟩ := List.forall_mem_cons.mp hothers
      refine ⟨c, hc, ?_⟩
      rw [add?_eq_some.mpr ⟨hnew, rfl⟩]
      refine ih.mpr ⟨ds, hds, fun d hd => ?_, hnodup.2, by simp⟩
      have hdifferent : d.name ≠ c.name := fun hname => hnodup.1 (hname ▸ List.mem_map_of_mem hd)
      have hadded : names ⟨m.classes ++ [c]⟩ = m.names ++ [c.name] := by simp [names]
      rw [hadded, List.mem_append, List.mem_singleton, not_or]
      exact ⟨hothers d hd, hdifferent⟩

/-- Entries are loaded in two steps: as classes without parents, and then with them. -/
theorem forall₂_loads_iff : List.Forall₂ (ClassDecl.Loads names) entries classes ↔
    ∃ cs parents, List.Forall₂ (fun v c => ClassDecl.ofValue v = .ok c) entries cs ∧
      List.Forall₂ (fun v p => ClassDecl.parentOfValue names v = .ok p) entries parents ∧
      classes = List.zipWith (fun (c : ClassDecl) p => { c with parent := p }) cs parents := by
  constructor
  · intro h
    induction h with
    | nil => exact ⟨[], [], .nil, .nil, rfl⟩
    | cons hfirst _ ih =>
      obtain ⟨bare, parent, hbare, hparent, rfl⟩ := hfirst
      obtain ⟨cs, parents, hcs, hparents, rfl⟩ := ih
      exact ⟨bare :: cs, parent :: parents, .cons hbare hcs, .cons hparent hparents, rfl⟩
  · rintro ⟨cs, parents, hcs, hparents, rfl⟩
    induction hcs generalizing parents with
    | nil => exact .nil
    | cons hbare _ ih =>
      obtain ⟨parent, others, hparent, hothers, rfl⟩ := List.forall₂_cons_left_iff.mp hparents
      exact .cons ⟨_, parent, hbare, hparent, rfl⟩ (ih others hothers)

theorem ofValue_mapping (es : List (String × Value)) : ofValue (.mapping es) = do
    let entries ← listing es "classes"
    let m ← addEntries ⟨[]⟩ entries
    let parents ← entries.mapM (ClassDecl.parentOfValue m.names)
    return ⟨List.zipWith (fun (c : ClassDecl) p => { c with parent := p }) m.classes parents⟩ := by
  rw [ofValue, listing]
  cases Entries.find? es "classes" with
  | some v => rfl
  | none => simp

/-- A document is loaded where every entry is, among classes whose names are distinct. -/
theorem ofValue_eq_ok : ofValue v = .ok m ↔ ∃ es entries, v = .mapping es ∧
    listing es "classes" = .ok entries ∧ m.names.Nodup ∧
    List.Forall₂ (ClassDecl.Loads m.names) entries m.classes := by
  have hnames {cs : List ClassDecl} {parents : List (Option String)}
      (hlength : cs.length = parents.length) :
      names ⟨List.zipWith (fun (c : ClassDecl) p => { c with parent := p }) cs parents⟩ =
        cs.map ClassDecl.name := by
    induction cs generalizing parents with
    | nil => rfl
    | cons c cs ih =>
      cases parents with
      | nil => cases hlength
      | cons p parents =>
        have hrest := ih (Nat.succ.inj hlength)
        simp_all [names]
  constructor
  · intro h
    cases v with
    | mapping es =>
      rw [ofValue_mapping] at h
      obtain ⟨entries, hentries, h⟩ := Success.bind_eq_ok.mp h
      obtain ⟨bare, hbare, h⟩ := Success.bind_eq_ok.mp h
      obtain ⟨parents, hparents, h⟩ := Success.bind_eq_ok.mp h
      obtain rfl := Success.pure_eq_ok.mp h
      obtain ⟨cs, hcs, -, hnodup, rfl⟩ := addEntries_eq_ok.mp hbare
      have hparents' := Success.mapM_eq_ok.mp hparents
      have hsame := hnames (hcs.length_eq.symm.trans hparents'.length_eq)
      refine ⟨es, entries, rfl, hentries, ?_, ?_⟩
      · rw [List.nil_append, hsame]
        exact hnodup
      · rw [List.nil_append, hsame]
        exact forall₂_loads_iff.mpr ⟨cs, parents, hcs, hparents', rfl⟩
    | _ => cases h
  · rintro ⟨es, entries, rfl, hentries, hnodup, hloads⟩
    obtain ⟨cs, parents, hcs, hparents, hclasses⟩ := forall₂_loads_iff.mp hloads
    have hsame : m.names = names ⟨cs⟩ := by
      have hzip := hnames (hcs.length_eq.symm.trans hparents.length_eq)
      rw [← hclasses] at hzip
      exact hzip
    rw [hsame] at hnodup hparents
    have hbare : addEntries ⟨[]⟩ entries = .ok ⟨cs⟩ :=
      addEntries_eq_ok.mpr ⟨cs, hcs, by simp [names], hnodup, rfl⟩
    have hparents' : entries.mapM (ClassDecl.parentOfValue (names ⟨cs⟩)) = .ok parents :=
      Success.mapM_eq_ok.mpr hparents
    rw [ofValue_mapping, hentries]
    show (addEntries ⟨[]⟩ entries >>= fun m => _) = _
    rw [hbare]
    show (entries.mapM (ClassDecl.parentOfValue (names ⟨cs⟩)) >>= fun parents => _) = _
    rw [hparents']
    exact congrArg (fun classes => Except.ok (Manifest.mk classes)) hclasses.symm

/-- A manifest that is loaded has the names that the document gives. -/
theorem outlines_of_ofValue (h : ofValue v = .ok m) : m.outlines = Document.outlines v := by
  obtain ⟨es, entries, rfl, hentries, -, hloads⟩ := ofValue_eq_ok.mp h
  have hlisted : elementsAt (.mapping es) "classes" = entries := by
    simp [elementsAt, hentries]
  rw [Document.outlines, hlisted]
  refine (List.forall₂_eq_eq_eq ▸ ?_ : entries.map Document.outline = m.outlines).symm
  rw [outlines, List.forall₂_map_left_iff, List.forall₂_map_right_iff]
  exact hloads.imp fun _ _ => ClassDecl.Loads.outline

/-- Loading finds every class that is extended among classes whose names are distinct. -/
theorem linked_of_ofValue (h : ofValue v = .ok m) : m.Linked := by
  obtain ⟨es, entries, rfl, -, hnodup, hloads⟩ := ofValue_eq_ok.mp h
  refine ⟨?_, fun o ho base hbase => ?_⟩
  · rw [map_name_outlines]
    exact hnodup
  · obtain ⟨c, hc, rfl⟩ := List.mem_map.mp ho
    obtain ⟨entry, -, bare, parent, -, hparent, rfl⟩ := Success.exists_left hloads hc
    rw [map_name_outlines]
    exact (ClassDecl.parentOfValue_eq_ok hparent).2 base hbase

/-- Every class that is extended is found in a manifest that is loaded. Lineages end there, and
properties along them have distinct names, exactly where the names that the document gives make
classes that fit together. -/
theorem ofValue_orderly_iff (h : ofValue v = .ok m) :
    m.Linked ∧ (m.Orderly ↔ Outline.Coherent (Document.outlines v)) := by
  have hlinked := linked_of_ofValue h
  refine ⟨hlinked, ?_⟩
  rw [orderly_iff_coherent hlinked, outlines_of_ofValue h]

end Manifest

namespace Sample

/-- The entry of a class with properties of which nothing but their names is said. -/
def entryOf (name : String) (parent : Option String) (members : List String) : Value :=
  .mapping [("name", .text name), ("parent", (parent.map Value.text).getD .null),
    ("properties", .list (members.map fun s => .mapping [("name", .text s)]))]

def documentOf (entries : List Value) : Value := .mapping [("classes", .list entries)]

def loadedClass (name : String) (parent : Option String) (members : List String) : ClassDecl :=
  { name := name, parent := parent, properties := members.map fun s => { name := s } }

theorem loads_entryOf {names : List String} {name : String} {parent : Option String}
    {members : List String} (h : ∀ base, parent = some base → base ∈ names) :
    ClassDecl.Loads names (entryOf name parent members) (loadedClass name parent members) := by
  have hproperty (s : String) :
      PropertyDecl.ofValue (.mapping [("name", .text s)]) = .ok { name := s } := by
    have hread : PropertyDecl.ofValue (.mapping [("name", .text s)]) = (do
        let type ← TypeRef.ofValue .null
        let expression ← Expr.ofValue .null
        return { name := s, type, expression }) := rfl
    rw [hread, TypeRef.ofValue, Expr.ofValue]
    rfl
  have hproperties : List.Forall₂ (fun p q => PropertyDecl.ofValue p = .ok q)
      (members.map fun s => .mapping [("name", .text s)])
      (loadedClass name none members).properties := by
    rw [loadedClass, List.forall₂_map_left_iff, List.forall₂_map_right_iff, List.forall₂_same]
    exact fun s _ => hproperty s
  refine ⟨loadedClass name none members, parent,
    ClassDecl.ofValue_eq_ok.mpr ⟨_, rfl, ⟨_, rfl, rfl⟩, ⟨_, rfl, hproperties⟩, rfl, rfl⟩, ?_, rfl⟩
  cases parent with
  | none => rfl
  | some base =>
    have hbase : names.contains base = true := by simpa using h base rfl
    show (if names.contains base then Except.ok (some base) else _) = _
    rw [if_pos hbase]

theorem loaded {entries : List Value} {m : Manifest} (hnames : m.names.Nodup)
    (h : List.Forall₂ (ClassDecl.Loads m.names) entries m.classes) :
    Manifest.ofValue (documentOf entries) = .ok m :=
  Manifest.ofValue_eq_ok.mpr ⟨_, entries, rfl, rfl, hnames, h⟩

/-- A class that extends another one, and properties of both. -/
def extendingDocument : Value :=
  documentOf [entryOf "B" (some "A") ["y"], entryOf "A" none ["x"]]

def extending : Manifest := ⟨[loadedClass "B" (some "A") ["y"], loadedClass "A" none ["x"]]⟩

theorem extending_eq : Manifest.ofValue extendingDocument = .ok extending := by
  refine loaded (m := extending) (by decide) (.cons ?_ (.cons ?_ .nil))
  · exact loads_entryOf fun base hbase => Option.some.inj hbase ▸ by decide
  · exact loads_entryOf fun base hbase => by cases hbase

def extendingOutlines : List Outline := [⟨"B", some "A", ["y"]⟩, ⟨"A", none, ["x"]⟩]

theorem extending_coherent : Outline.Coherent extendingOutlines := by
  have hpath {a b : String} (h : TransGen (Outline.Extends extendingOutlines) a b) :
      a = "B" ∧ b = "A" := by
    have hstep {a b : String} (h : Outline.Extends extendingOutlines a b) :
        a = "B" ∧ b = "A" := by
      obtain ⟨o, ho, rfl, hbase⟩ := h
      simp only [extendingOutlines, List.mem_cons, List.not_mem_nil, or_false] at ho
      rcases ho with rfl | rfl
      · exact ⟨rfl, (Option.some.inj hbase).symm⟩
      · cases hbase
    induction h with
    | single h => exact hstep h
    | tail _ h ih =>
      obtain ⟨hname, -⟩ := hstep h
      rw [ih.2] at hname
      exact absurd hname (by decide)
  refine ⟨fun a hcycle => ?_, by decide, fun o ho e he h => ?_⟩
  · obtain ⟨rfl, hname⟩ := hpath hcycle
    exact absurd hname (by decide)
  · obtain ⟨ho', he'⟩ := hpath h
    simp only [extendingOutlines, List.mem_cons, List.not_mem_nil, or_false] at ho he
    rcases ho with rfl | rfl
    · rcases he with rfl | rfl
      · exact absurd he' (by decide)
      · simp
    · exact absurd ho' (by decide)

end Sample

theorem Manifest.ofValue_orderly_extending : Sample.extending.Orderly :=
  (Manifest.ofValue_orderly_iff Sample.extending_eq).2.mpr Sample.extending_coherent

/-- A class that extends itself is loaded, and so is one that declares a property twice. -/
theorem Manifest.ofValue_circular_repeated :
    (∃ m, Manifest.ofValue (Sample.documentOf [Sample.entryOf "A" (some "A") []]) = .ok m ∧
      ∃ c ∈ m.classes, ∀ as, ¬Line m.parent? c as) ∧
    ∃ m, Manifest.ofValue (Sample.documentOf [Sample.entryOf "A" none ["x", "x"]]) = .ok m ∧
      ∃ c ∈ m.classes, ¬((m.allProperties c).map PropertyDecl.name).Nodup := by
  constructor
  · refine ⟨⟨[Sample.loadedClass "A" (some "A") []]⟩, ?_, _, List.mem_singleton_self _, ?_⟩
    · refine Sample.loaded (List.nodup_singleton _) (.cons ?_ .nil)
      exact Sample.loads_entryOf fun base hbase => Option.some.inj hbase ▸ List.mem_singleton_self _
    · intro as hline
      exact hline.not_circular (.single rfl)
  · refine ⟨⟨[Sample.loadedClass "A" none ["x", "x"]]⟩, ?_, _, List.mem_singleton_self _, ?_⟩
    · refine Sample.loaded (List.nodup_singleton _) (.cons ?_ .nil)
      exact Sample.loads_entryOf fun base hbase => by cases hbase
    · decide

end ViewModel
