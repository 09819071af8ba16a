import ViewModel.Model.Stored
import ViewModel.Proofs.Model.Alike
import ViewModel.Proofs.Model.Loaded
import ViewModel.Target.ClassFile

/-!
What is saved is loaded again. A document of a manifest may come back with the entries of its
mappings in another order; every type, expression, property and class is read from it as it was,
but for the source of accessors, which is not saved.
-/

namespace ViewModel

open Document

theorem TypeRef.ofValue_of_alike {t : TypeRef} {v : Value} (h : t.toValue.Alike v) :
    ofValue v = .ok t := by
  induction t generalizing v with
  | unresolved =>
    obtain rfl : v = .null := Value.Alike.eq_of_scalar (s := .null) h
    rw [ofValue]
  | primitive k =>
    obtain ⟨fs, rfl, hfs⟩ := h.exists_mapping
    have hkind := hfs.scalar "kind" (.text "primitive") rfl
    have hname := hfs.scalar "name" (.text k.name) rfl
    simp only [ofValue, entry, hkind, Option.getD_some, Scalar.toValue]
    refine Success.bind_of_ok (required_of_find? hname) ?_
    simp only [Scalar.toValue, Primitive.ofName?_name]
    rfl
  | reference c =>
    obtain ⟨fs, rfl, hfs⟩ := h.exists_mapping
    have hkind := hfs.scalar "kind" (.text "reference") rfl
    have hclass := hfs.scalar "class" (.text c) rfl
    simp only [ofValue, entry, hkind, Option.getD_some, Scalar.toValue]
    exact Success.bind_of_ok (required_of_find? hclass) rfl
  | sequence t ih =>
    obtain ⟨fs, rfl, hfs⟩ := h.exists_mapping
    have hkind := hfs.scalar "kind" (.text "sequence") rfl
    obtain ⟨w, hw, helement⟩ := hfs "element" _ rfl
    simp only [ofValue, entry, hkind, Option.getD_some, Scalar.toValue]
    refine Success.bind_of_ok (required_of_find? hw) ?_
    exact Success.bind_of_ok (ih helement) rfl
  | nullable t ih =>
    obtain ⟨fs, rfl, hfs⟩ := h.exists_mapping
    have hkind := hfs.scalar "kind" (.text "nullable") rfl
    obtain ⟨w, hw, hinner⟩ := hfs "inner" _ rfl
    simp only [ofValue, entry, hkind, Option.getD_some, Scalar.toValue]
    refine Success.bind_of_ok (required_of_find? hw) ?_
    exact Success.bind_of_ok (ih hinner) rfl

theorem Expr.ofValue_of_alike {e : Expr} {v : Value} (h : e.toValue.Alike v) :
    ofValue v = .ok e := by
  induction e generalizing v with
  | hole =>
    obtain rfl : v = .null := Value.Alike.eq_of_scalar (s := .null) h
    rw [ofValue]
  | binary op l r ihl ihr =>
    obtain ⟨fs, rfl, hfs⟩ := h.exists_mapping
    have htype := hfs.scalar "type" (.text "binary") rfl
    have hoperator := hfs.scalar "operator" (.text op.symbol) rfl
    obtain ⟨v, hv, hleft⟩ := hfs "left" _ rfl
    obtain ⟨w, hw, hright⟩ := hfs "right" _ rfl
    simp only [ofValue, entry, htype, Option.getD_some, Scalar.toValue]
    refine Success.bind_of_ok (required_of_find? hoperator) ?_
    simp only [Scalar.toValue, BinaryOp.ofSymbol?_symbol]
    refine Success.bind_of_ok rfl ?_
    refine Success.bind_of_ok (required_of_find? hv) ?_
    refine Success.bind_of_ok (ihl hleft) ?_
    refine Success.bind_of_ok (required_of_find? hw) ?_
    exact Success.bind_of_ok (ihr hright) rfl
  | member path nullSafe =>
    obtain ⟨fs, rfl, hfs⟩ := h.exists_mapping
    have htype := hfs.scalar "type" (.text "member") rfl
    obtain ⟨v, hv, hpath⟩ := hfs "path" _ rfl
    obtain ⟨w, hw, hnullSafe⟩ := hfs "null_safe" _ rfl
    obtain rfl := hpath.eq_of_scalars (f := .text)
    obtain rfl := hnullSafe.eq_of_scalars (f := .int)
    have hsegments : (path.map fun s => (Scalar.text s).toValue).mapM text = .ok path := by
      rw [Success.mapM_eq_ok, List.forall₂_map_left_iff, List.forall₂_same]
      exact fun _ _ => rfl
    have hindexes : (nullSafe.map fun n => (Scalar.int n).toValue).mapM index = .ok nullSafe := by
      rw [Success.mapM_eq_ok, List.forall₂_map_left_iff, List.forall₂_same]
      exact fun _ _ => rfl
    simp only [ofValue, entry, htype, hw, Option.getD_some, Scalar.toValue]
    refine Success.bind_of_ok (required_of_find? hv) ?_
    refine Success.bind_of_ok rfl ?_
    refine Success.bind_of_ok hsegments ?_
    refine Success.bind_of_ok rfl ?_
    exact Success.bind_of_ok hindexes rfl
  | literal s =>
    obtain ⟨fs, rfl, hfs⟩ := h.exists_mapping
    have htype := hfs.scalar "type" (.text "lit") rfl
    have hvalue := hfs.scalar "value" s rfl
    simp only [ofValue, entry, htype, Option.getD_some, Scalar.toValue]
    refine Success.bind_of_ok (required_of_find? hvalue) ?_
    refine Success.bind_of_ok ?_ rfl
    simp [scalar]
  | not e ih =>
    obtain ⟨fs, rfl, hfs⟩ := h.exists_mapping
    have htype := hfs.scalar "type" (.text "unary") rfl
    have hoperator := hfs.scalar "operator" (.text "NOT") rfl
    obtain ⟨v, hv, hoperand⟩ := hfs "operand" _ rfl
    simp only [ofValue, entry, htype, Option.getD_some, Scalar.toValue]
    refine Success.bind_of_ok (required_of_find? hoperator) ?_
    refine Success.bind_of_ok (required_of_find? hv) ?_
    exact Success.bind_of_ok (ih hoperand) rfl
  | nullCheck e negated ih =>
    obtain ⟨fs, rfl, hfs⟩ := h.exists_mapping
    have htype := hfs.scalar "type" (.text "null_check") rfl
    have hnegated := hfs.scalar "negated" (.bool negated) rfl
    obtain ⟨v, hv, hoperand⟩ := hfs "operand" _ rfl
    simp only [ofValue, entry, htype, Option.getD_some, Scalar.toValue]
    refine Success.bind_of_ok (required_of_find? hv) ?_
    refine Success.bind_of_ok (ih hoperand) ?_
    refine Success.bind_of_ok ?_ rfl
    rw [flag, hnegated]
    rfl
  | ternary c t f ihc iht ihf =>
    obtain ⟨fs, rfl, hfs⟩ := h.exists_mapping
    have htype := hfs.scalar "type" (.text "ternary") rfl
    obtain ⟨u, hu, hcondition⟩ := hfs "condition" _ rfl
    obtain ⟨v, hv, htrue⟩ := hfs "when_true" _ rfl
    obtain ⟨w, hw, hfalse⟩ := hfs "when_false" _ rfl
    simp only [ofValue, entry, htype, Option.getD_some, Scalar.toValue]
    refine Success.bind_of_ok (required_of_find? hu) ?_
    refine Success.bind_of_ok (ihc hcondition) ?_
    refine Success.bind_of_ok (required_of_find? hv) ?_
    refine Success.bind_of_ok (iht htrue) ?_
    refine Success.bind_of_ok (required_of_find? hw) ?_
    exact Success.bind_of_ok (ihf hfalse) rfl

/-! A manifest keeps everything but the source of its accessors. -/

def PropertyDecl.stored (p : PropertyDecl) : PropertyDecl := { p with accessor := none }

def ClassDecl.stored (c : ClassDecl) : ClassDecl :=
  { c with properties := c.properties.map PropertyDecl.stored }

def Manifest.stored (m : Manifest) : Manifest := ⟨m.classes.map ClassDecl.stored⟩

theorem PropertyDecl.ofValue_of_alike {p : PropertyDecl} {v : Value} (h : p.toValue.Alike v) :
    ofValue v = .ok p.stored := by
  obtain ⟨fs, rfl, hfs⟩ := h.exists_mapping
  have hname := hfs.scalar "name" (.text p.name) rfl
  have hcomputed := hfs.scalar "computed" (.bool p.computed) rfl
  have hdefault := hfs.scalar "default" p.default rfl
  obtain ⟨v, hv, htype⟩ := hfs "type" _ rfl
  obtain ⟨w, hw, hexpression⟩ := hfs "expression" _ rfl
  simp only [ofValue, entry, hv, hw, hdefault, Option.getD_some]
  refine Success.bind_of_ok (required_of_find? hname) ?_
  refine Success.bind_of_ok rfl ?_
  refine Success.bind_of_ok (TypeRef.ofValue_of_alike htype) ?_
  refine Success.bind_of_ok (a := p.computed) ?_ ?_
  · rw [flag, hcomputed]
    rfl
  refine Success.bind_of_ok (Expr.ofValue_of_alike hexpression) ?_
  refine Success.bind_of_ok (a := p.default) ?_ rfl
  simp [scalar]

/-- The list under a key is read item by item. -/
theorem Document.listing_of_covers {α : Type} {f : α → Value} {xs : List α}
    {es fs : List (String × Value)} (h : Value.Covers es fs) (key : String)
    (hlist : Entries.find? es key = some (.list (xs.map f))) :
    ∃ ws, listing fs key = .ok ws ∧ List.Forall₂ (fun w x => (f x).Alike w) ws xs := by
  obtain ⟨w, hw, halike⟩ := h key _ hlist
  obtain ⟨ws, rfl, hws⟩ := halike.exists_list
  refine ⟨ws, ?_, (List.forall₂_map_left_iff.mp hws).flip⟩
  rw [listing, hw]
  rfl

theorem ClassDecl.loads_of_alike {c : ClassDecl} {v : Value} {names : List String}
    (hparent : ∀ base, c.parent = some base → base ∈ names) (h : c.toValue.Alike v) :
    Loads names v c.stored := by
  obtain ⟨fs, rfl, hfs⟩ := h.exists_mapping
  have hname := hfs.scalar "name" (.text c.name) rfl
  have hbase := hfs.scalar "parent" ((c.parent.map Scalar.text).getD .null)
    (by cases c.parent <;> rfl)
  have hsource := hfs.scalar "source" ((c.source.map Scalar.text).getD .null)
    (by cases c.source <;> rfl)
  obtain ⟨ws, hws, hproperties⟩ := listing_of_covers hfs "properties" rfl
  have hloaded : List.Forall₂ (fun w q => PropertyDecl.ofValue w = .ok q) ws
      (c.properties.map PropertyDecl.stored) := by
    rw [List.forall₂_map_right_iff]
    exact hproperties.imp fun w p hp => PropertyDecl.ofValue_of_alike hp
  refine ⟨{ c.stored with parent := none }, c.parent, ofValue_eq_ok.mpr
    ⟨fs, rfl, ⟨_, required_of_find? hname, rfl⟩, ⟨ws, hws, hloaded⟩, ?_, rfl⟩, ?_, rfl⟩
  · rw [entry, hsource]
    cases hc : c.source <;> simp [stored, hc, text?, Scalar.toValue]
  · cases hc : c.parent with
    | none =>
      rw [hc] at hbase
      simp [parentOfValue, entry, hbase, Scalar.toValue]
    | some base =>
      rw [hc] at hbase
      simp [parentOfValue, entry, hbase, Scalar.toValue, hparent base hc]

namespace Manifest

variable {m : Manifest} {v : Value}

theorem names_stored (m : Manifest) : m.stored.names = m.names := by
  simp [names, stored, Function.comp_def, ClassDecl.stored]

/-- A document that says what a manifest says is loaded as that manifest. -/
theorem ofValue_of_alike (hm : m.Linked) (h : m.toValue.Alike v) : ofValue v = .ok m.stored := by
  obtain ⟨fs, rfl, hfs⟩ := h.exists_mapping
  obtain ⟨ws, hws, hclasses⟩ := listing_of_covers hfs "classes" rfl
  have hnames := map_name_outlines m
  refine ofValue_eq_ok.mpr ⟨fs, ws, rfl, hws, ?_, ?_⟩
  · rw [names_stored, ← hnames]
    exact hm.names
  · rw [names_stored, stored, List.forall₂_map_right_iff]
    have hwithin := (List.forall₂_and_left _ _).mpr ⟨fun c hc => hc, hclasses.flip⟩
    refine hwithin.flip.imp fun w c ⟨hc, halike⟩ => ClassDecl.loads_of_alike ?_ halike
    rw [← hnames]
    exact hm.bases _ (List.mem_map_of_mem hc)

end Manifest

namespace ClassFile

variable (c : ClassDecl)

theorem references_stored : c.stored.references = c.references := by
  have htypes : c.stored.properties.flatMap (fun p => p.type.classes) =
      c.properties.flatMap fun p => p.type.classes :=
    List.flatMap_map _ _ _
  rw [ClassDecl.references, ClassDecl.references, htypes]
  rfl

theorem csharp_stored (space : String) : csharp space c.stored = csharp space c := by
  have hproperties : c.stored.properties.mapM csharpProperty =
      c.properties.mapM csharpProperty := List.mapM_map
  rw [csharp, csharp, hproperties]
  rfl

theorem typescript_stored : typescript c.stored = typescript c := by
  have hproperties (ps : List PropertyDecl) (isFirst : Bool) :
      (ps.map PropertyDecl.stored).mapM (typescriptProperty isFirst) =
        ps.mapM (typescriptProperty isFirst) := List.mapM_map
  have hstored : c.stored.properties = c.properties.map PropertyDecl.stored := rfl
  rw [typescript, typescript, references_stored, hstored, ← List.map_take, ← List.map_drop,
    hproperties, hproperties]
  rfl

theorem python_stored : python c.stored = python c := by
  have hproperties (isFirst afterAccessor : Bool) (ps : List PropertyDecl) :
      pythonProperties isFirst afterAccessor (ps.map PropertyDecl.stored) =
        pythonProperties isFirst afterAccessor ps := by
    induction ps generalizing isFirst afterAccessor with
    | nil => rfl
    | cons p ps ih =>
      rw [List.map_cons, pythonProperties, pythonProperties, ih, ih]
      rfl
  have hany (f : PropertyDecl → Bool) (hf : ∀ p, f p.stored = f p) :
      c.stored.properties.any f = c.properties.any f := by
    rw [ClassDecl.stored, List.any_map]
    exact congrArg c.properties.any (funext hf)
  have himports : pythonImports c.stored = pythonImports c := by
    rw [pythonImports, pythonImports, references_stored, hany _ fun _ => rfl, hany _ fun _ => rfl,
      hany _ fun _ => rfl]
  rw [python, python, himports]
  show (pythonProperties true false (c.properties.map PropertyDecl.stored) >>= _) = _
  rw [hproperties]
  rfl

/-- The file of a class does not depend on the source of its accessors. -/
theorem classFile_stored (g : Target) (space : String) :
    g.classFile space c.stored = g.classFile space c := by
  cases g with
  | csharp => exact csharp_stored c space
  | typescript => exact typescript_stored c
  | python => exact python_stored c

theorem pythonPackage_stored (m : Manifest) : pythonPackage m.stored = pythonPackage m := by
  rw [pythonPackage, pythonPackage, Manifest.names_stored]

end ClassFile

/-- What is written as JSON is read back as the same data. -/
def Json.ReadsBack (v : Value) : Prop := ∃ w, read (writeSorted v) = .ok w ∧ v.Alike w

theorem Json.readsBack_of_alike {v : Value} {text : String} (htext : writeSorted v = text)
    (h : (match read text with | .ok w => v.alike w | .error _ => false) = true) :
    ReadsBack v := by
  unfold ReadsBack
  rw [htext]
  cases hread : read text with
  | ok w =>
    rw [hread] at h
    exact ⟨w, rfl, Value.alike_sound _ h⟩
  | error => simp [hread] at h

/-- What is written as YAML is read back as the same data. -/
def Yaml.ReadsBack (v : Value) : Prop :=
  ∃ es, v = .mapping es ∧ ∃ d, read (write es) = .ok d ∧ v.Alike d.toValue

namespace Manifest

variable {m n : Manifest}

theorem ofJson_toJson (hm : m.Linked) (h : Json.ReadsBack m.toValue) :
    ofJson m.toJson = .ok m.stored := by
  obtain ⟨w, hread, halike⟩ := h
  unfold ofJson
  rw [toJson, hread]
  exact Success.bind_of_ok rfl (Success.mapError_eq_ok.mpr (ofValue_of_alike hm halike))

theorem ofYaml_toYaml (hm : m.Linked) (h : Yaml.ReadsBack m.toValue) :
    ofYaml m.toYaml = .ok m.stored := by
  obtain ⟨es, hes, d, hread, halike⟩ := h
  unfold ofYaml
  rw [toYaml, hes]
  dsimp only
  rw [hread]
  exact Success.bind_of_ok rfl (Success.mapError_eq_ok.mpr (ofValue_of_alike hm halike))

theorem parent?_stored (c : ClassDecl) :
    m.stored.parent? c.stored = (m.parent? c).map ClassDecl.stored := by
  have hclass (name : String) : m.stored.class? name = (m.class? name).map ClassDecl.stored := by
    simp only [class?, stored, List.find?_map]
    rfl
  show c.parent.bind m.stored.class? = (c.parent.bind m.class?).map ClassDecl.stored
  cases c.parent with
  | none => rfl
  | some base => exact hclass base

/-- What is saved is loaded as it was but for the source of accessors: from a document whose entries
are in any order, with the classes in that order and the parents that they had; and from JSON and
YAML text, where that is read back as the data that was written. The files that are generated from
what is loaded are the same. -/
theorem saved_loaded (hm : m.Linked) {entries : List Value}
    (h : entries.Perm (m.classes.map ClassDecl.toValue)) :
    ∃ listed : Manifest, listed.classes.Perm m.classes ∧
      entries = listed.classes.map ClassDecl.toValue ∧
      ofValue (.mapping [("classes", .list entries)]) = .ok listed.stored ∧
      (∀ c ∈ m.classes,
        listed.stored.parent? c.stored = (m.parent? c).map ClassDecl.stored) ∧
      (Json.ReadsBack listed.toValue → ofJson listed.toJson = .ok listed.stored) ∧
      (Yaml.ReadsBack listed.toValue → ofYaml listed.toYaml = .ok listed.stored) ∧
      (∀ (g : Target) (space : String),
        listed.stored.classes.map (g.classFile space) = listed.classes.map (g.classFile space)) ∧
      ClassFile.pythonPackage listed.stored = ClassFile.pythonPackage listed := by
  have hsame : List.Forall₂ (fun c v => v = c.toValue) m.classes
      (m.classes.map ClassDecl.toValue) := by
    rw [List.forall₂_map_right_iff]
    exact List.forall₂_same.mpr fun _ _ => rfl
  obtain ⟨cs, hcs, hentries⟩ : ∃ cs : List ClassDecl, cs.Perm m.classes ∧
      entries = cs.map ClassDecl.toValue := by
    obtain ⟨cs, hentries, hcs⟩ := List.perm_comp_forall₂ h hsame.flip
    refine ⟨cs, hcs, ?_⟩
    rw [← List.forall₂_eq_eq_eq, List.forall₂_map_right_iff]
    exact hentries
  have hlisted : Linked ⟨cs⟩ := hm.perm (hcs.symm.map ClassDecl.outline)
  have hparent : parent? ⟨cs⟩ = m.parent? := Outline.base?_perm hcs hlisted
  refine ⟨⟨cs⟩, hcs, hentries, ?_, fun c _ => ?_, ofJson_toJson hlisted, ofYaml_toYaml hlisted,
    fun g space => ?_, ClassFile.pythonPackage_stored _⟩
  · rw [hentries]
    exact ofValue_of_alike hlisted (.refl _)
  · rw [parent?_stored, hparent]
  · rw [stored, List.map_map]
    exact List.map_congr_left fun c _ => ClassFile.classFile_stored c g space

end Manifest

namespace Sample

def keptParent : ClassDecl := { name := "A", source := some "a.py" }

def keptChild : ClassDecl := { name := "B", parent := some "A" }

def kept : Manifest := ⟨[keptParent, keptChild]⟩

theorem kept_linked : kept.Linked := by
  constructor
  · decide
  · intro o ho base hbase
    simp only [Manifest.outlines, kept, List.map_cons, List.map_nil, List.mem_cons,
      List.not_mem_nil, or_false] at ho
    obtain rfl | rfl := ho
    · cases hbase
    · obtain rfl := Option.some.inj hbase
      decide

/-- The class that extends the other one stands before it. -/
def keptEntries : List Value := [keptChild.toValue, keptParent.toValue]

/-- The document of these entries with its keys in order. -/
theorem sorted_kept : Json.sorted (.mapping [("classes", .list keptEntries)]) =
    .mapping [("classes", .list [
      .mapping [("name", .text "B"), ("parent", .text "A"), ("properties", .list []),
        ("source", .null)],
      .mapping [("name", .text "A"), ("parent", .null), ("properties", .list []),
        ("source", .text "a.py")]])] := by
  simp [keptEntries, keptChild, keptParent, ClassDecl.toValue, Json.sorted, Json.sortedItems,
    Json.sortedEntries, Json.sortEntries, List.mergeSort, List.MergeSort.Internal.splitInTwo]

theorem kept_json : Json.ReadsBack (.mapping [("classes", .list keptEntries)]) := by
  have htext : Json.writeSorted (.mapping [("classes", .list keptEntries)]) =
      "\x7b\"classes\": [\x7b\"name\": \"B\", \"parent\": \"A\", \"properties\": [], " ++
        "\"source\": null\x7d, \x7b\"name\": \"A\", \"parent\": null, \"properties\": [], " ++
        "\"source\": \"a.py\"\x7d]\x7d" := by
    rw [Json.writeSorted, sorted_kept]
    decide +kernel
  exact Json.readsBack_of_alike htext (by decide +kernel)

def keptYaml : String :=
  "classes:\n- name: B\n  parent: A\n  properties: []\n  source: null\n" ++
    "- name: A\n  parent: null\n  properties: []\n  source: a.py\n"

def wordToken (s : String) : Yaml.Token := .scalar true s

def entryTokens (key text : String) : List Yaml.Token :=
  [.key, wordToken key, .value, wordToken text]

def classTokens (name parent source : String) : List Yaml.Token :=
  [.item, .blockMapping] ++ entryTokens "name" name ++ entryTokens "parent" parent ++
    [.key, wordToken "properties", .value, .openSequence, .closeSequence] ++
    entryTokens "source" source ++ [.blockEnd]

def keptTokens : List Yaml.Token :=
  [.blockMapping, .key, wordToken "classes", .value] ++ classTokens "B" "A" "null" ++
    classTokens "A" "null" "a.py" ++ [.blockEnd]

def wordNode (s : String) : Yaml.Node := .scalar .byForm s

def classNode (name parent source : String) : Yaml.Node :=
  .mapping none [(wordNode "name", wordNode name), (wordNode "parent", wordNode parent),
    (wordNode "properties", .sequence none []), (wordNode "source", wordNode source)]

def keptNode : Yaml.Node :=
  .mapping none [(wordNode "classes",
    .sequence none [classNode "B" "A" "null", classNode "A" "null" "a.py"])]

def classDatum (name : String) (parent source : Yaml.Datum) : Yaml.Datum :=
  .mapping [(.text "name", .text name), (.text "parent", parent),
    (.text "properties", .list []), (.text "source", source)]

def keptDatum : Yaml.Datum :=
  .mapping [(.text "classes",
    .list [classDatum "B" (.text "A") .null, classDatum "A" .null (.text "a.py")])]

theorem tokens_kept : Yaml.tokens keptYaml = .ok keptTokens := by
  have hsame : (match Yaml.tokens keptYaml with
      | .ok ts => ts == keptTokens
      | .error _ => false) = true := by
    decide +kernel
  cases htokens : Yaml.tokens keptYaml with
  | ok ts =>
    rw [htokens] at hsame
    exact congrArg _ (beq_iff_eq.mp hsame)
  | error =>
    rw [htokens] at hsame
    cases hsame

theorem ofNode_kept : Yaml.Datum.ofNode keptNode = .ok keptDatum := by
  have hword (s : String) (h : Yaml.Scalar.ofPlain s = .datum (.text s)) :
      Yaml.Datum.ofScalar .byForm s = .ok (.text s) := by
    simp [Yaml.Datum.ofScalar, h]
  have hnull : Yaml.Datum.ofScalar .byForm "null" = .ok .null := rfl
  simp only [keptNode, classNode, wordNode, Yaml.Datum.ofNode, Yaml.Datum.ofNodes,
    Yaml.Datum.ofPairs, Yaml.Datum.keyOf, Yaml.Datum.isMerge, hnull, hword "classes" rfl,
    hword "name" rfl, hword "parent" rfl, hword "properties" rfl, hword "source" rfl,
    hword "A" rfl, hword "B" rfl, hword "a.py" rfl]
  rfl

theorem kept_yaml : Yaml.ReadsBack (.mapping [("classes", .list keptEntries)]) := by
  have hwrite : Yaml.write [("classes", .list keptEntries)] = keptYaml := by
    rw [Yaml.write, sorted_kept]
    decide +kernel
  have hread : Yaml.read keptYaml = .ok keptDatum := by
    unfold Yaml.read
    rw [tokens_kept]
    exact ofNode_kept
  refine ⟨_, rfl, keptDatum, ?_, Value.alike_sound _ (by decide +kernel)⟩
  rw [hwrite, hread]

end Sample

theorem Manifest.saved_loaded_reordered : ∃ listed : Manifest,
    ofValue (.mapping [("classes", .list Sample.keptEntries)]) = .ok listed.stored ∧
      listed.stored.parent? Sample.keptChild = some Sample.keptParent ∧
      ofJson listed.toJson = .ok listed.stored ∧ ofYaml listed.toYaml = .ok listed.stored := by
  obtain ⟨listed, -, hlisted, hvalue, hparents, hjson, hyaml, -, -⟩ :=
    saved_loaded Sample.kept_linked (List.Perm.swap Sample.keptParent.toValue
      Sample.keptChild.toValue [])
  have hdocument : listed.toValue = .mapping [("classes", .list Sample.keptEntries)] := by
    rw [toValue, ← hlisted]
    rfl
  refine ⟨listed, hvalue, ?_, hjson ?_, hyaml ?_⟩
  · exact hparents Sample.keptChild (List.mem_cons_of_mem _ (List.mem_singleton_self _))
  · rw [hdocument]
    exact Sample.kept_json
  · rw [hdocument]
    exact Sample.kept_yaml

end ViewModel
