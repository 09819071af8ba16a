import ViewModel.Proofs.Target.Generated
import ViewModel.Proofs.Target.Literal

/-!
Objects as the code of a target makes them, with the defaults of all their fields. A field whose
type is a class starts with a new object of that class, so making an object ends exactly if that
never leads back to a class of which an object is being made.
-/

namespace ViewModel

open Relation (TransGen ReflTransGen)
open Source (Declaration)

/-- What a field starts with. -/
inductive Start
  | null
  | literal (s : Scalar)
  | zero (kind : Primitive)
  | empty
  | made (className : String)
  deriving DecidableEq

def PropertyDecl.start (p : PropertyDecl) : Start :=
  match p.type with
  | .nullable _ => .null
  | .primitive k =>
      match p.default with
      | .null => .zero k
      | s => .literal s
  | .reference c => .made c
  | _ => .empty

namespace Target

/-! What stands in the line of a field for what it starts with. -/

def nullText : Target → String
  | csharp => ""
  | typescript => "null"
  | python => "None"

def zeroText : Target → Primitive → String
  | csharp => ClassFile.csharpZero
  | typescript => ClassFile.typescriptZero
  | python => ClassFile.pythonZero

/-- An empty list, for a field of this type. -/
def emptyText : Target → String → String
  | csharp, type => " = new " ++ type ++ "();"
  | typescript, _ => "[]"
  | python, _ => "field(default_factory=list)"

/-- A new object. -/
def madeText : Target → String → String
  | csharp, c => " = new " ++ c ++ "();"
  | typescript, c => "new " ++ c ++ "()"
  | python, c => "field(default_factory=" ++ c ++ ")"

def startText (t : Target) (type : String) : Start → String
  | .null => t.nullText
  | .literal s => t.initialized (t.dialect.literal s)
  | .zero k => t.initialized (t.zeroText k)
  | .empty => t.emptyText type
  | .made c => t.madeText c

variable {p : PropertyDecl} {type : String}

/-- Every target sets a field to what it starts with. -/
theorem initializer_start (t : Target) (htype : t.typeName p.type = .ok type) :
    t.initializer p = .ok (t.startText type p.start) := by
  obtain ⟨name, fieldType, computed, expression, default, accessor⟩ := p
  cases fieldType with
  | unresolved => cases t <;> cases htype
  | primitive kind => cases t <;> cases default <;> rfl
  | reference c => cases t <;> rfl
  | sequence element =>
    cases t with
    | csharp => exact Success.bind_of_ok htype rfl
    | typescript | python => rfl
  | nullable inner => cases t <;> rfl

end Target

/-! Making objects. -/

/-- The zero of a kind of numbers, and what counts as one for the other kinds. -/
def Primitive.zero : Primitive → Value
  | .string => .text ""
  | .boolean => .bool false
  | .integer => .int 0
  | .float => .float (.zero false)

/-- The value of a start, where `make?` makes objects. -/
def Start.value? (make? : String → Option Value) : Start → Option Value
  | null => some .null
  | literal s => some s.toValue
  | zero k => some k.zero
  | empty => some (.list [])
  | made c => make? c

namespace Manifest

/-- The fields of the class and of its ancestors, inherited ones first. -/
def allFields (m : Manifest) (d : ClassDecl) : List PropertyDecl :=
  (m.allProperties d).filter fun p => !p.computed

/-- A new object of a class with all its defaults, if no more than `depth` objects are being made
inside one another. -/
def newObject? (m : Manifest) : Nat → String → Option Value
  | 0, _ => none
  | depth + 1, name => do
      let d ← m.class? name
      let entries ← (m.allFields d).mapM fun p =>
        (p.start.value? (m.newObject? depth)).map fun v => (p.name, v)
      return .object name entries

/-- Making an object of the class `a` makes one of the class `b`. -/
def Starts (m : Manifest) (a b : String) : Prop :=
  ∃ d p, m.class? a = some d ∧ p ∈ m.allFields d ∧ p.type = .reference b

variable {m : Manifest} {a b name : String} {d : ClassDecl} {p : PropertyDecl} {depth more : Nat}
  {v : Value}

theorem start_eq_made : p.start = .made b ↔ p.type = .reference b := by
  unfold PropertyDecl.start
  cases p.type with
  | primitive k => cases p.default <;> simp
  | _ => simp

/-- An object is made where the objects that it starts with are. -/
theorem newObject?_succ : (m.newObject? (depth + 1) a).isSome ↔
    (m.class? a).isSome ∧ ∀ b, m.Starts a b → (m.newObject? depth b).isSome := by
  rw [newObject?]
  cases hd : m.class? a with
  | none => simp
  | some d =>
    have hfields : (∀ p ∈ m.allFields d, (p.start.value? (m.newObject? depth)).isSome) ↔
        ∀ b, m.Starts a b → (m.newObject? depth b).isSome := by
      constructor
      · rintro h b ⟨e, p, he, hp, htype⟩
        obtain rfl := Option.some.inj (hd.symm.trans he)
        have hp' := h p hp
        rwa [start_eq_made.mpr htype] at hp'
      · intro h p hp
        cases hstart : p.start with
        | made b => exact h b ⟨d, p, hd, hp, start_eq_made.mp hstart⟩
        | _ => rfl
    have hentries := Success.mapM_isSome
      (fun p => (p.start.value? (m.newObject? depth)).map fun v => (p.name, v)) (m.allFields d)
    simp only [Option.isSome_map] at hentries
    rw [← hfields, ← hentries]
    simp only [Option.bind_eq_bind, Option.bind_some, Option.pure_def, Option.isSome_some,
      true_and]
    cases (m.allFields d).mapM fun p =>
        (p.start.value? (m.newObject? depth)).map fun v => (p.name, v) <;> simp

/-- With more room the same object is made. -/
theorem newObject?_mono (h : m.newObject? depth a = some v) (hmore : depth ≤ more) :
    m.newObject? more a = some v := by
  have mapM_mono {α β : Type} {f g : α → Option β} (hfg : ∀ x y, f x = some y → g x = some y)
      {xs : List α} {ys : List β} (h : xs.mapM f = some ys) : xs.mapM g = some ys := by
    induction xs generalizing ys with
    | nil => exact h
    | cons x xs ih =>
      simp only [List.mapM_cons, Option.bind_eq_bind, Option.bind_eq_some_iff] at h ⊢
      obtain ⟨y, hy, rest, hrest, hys⟩ := h
      exact ⟨y, hfg x y hy, rest, ih hrest, hys⟩
  induction depth generalizing more a v with
  | zero => cases h
  | succ depth ih =>
    obtain ⟨more, rfl⟩ : ∃ k, more = k + 1 := ⟨more - 1, by omega⟩
    simp only [newObject?, Option.bind_eq_bind, Option.bind_eq_some_iff] at h ⊢
    obtain ⟨d, hd, entries, hentries, hv⟩ := h
    refine ⟨d, hd, entries, mapM_mono ?_ hentries, hv⟩
    intro p entry hentry
    obtain ⟨w, hw, hpair⟩ := Option.map_eq_some_iff.mp hentry
    refine Option.map_eq_some_iff.mpr ⟨w, ?_, hpair⟩
    cases hstart : p.start with
    | made b =>
      rw [hstart] at hw
      exact ih hw (by omega)
    | _ =>
      rw [hstart] at hw
      exact hw

/-- Where an object is made, making objects inside one another comes to an end. -/
theorem acc_of_newObject? (h : (m.newObject? depth a).isSome) : Acc (flip m.Starts) a := by
  induction depth generalizing a with
  | zero => cases h
  | succ depth ih =>
    constructor
    intro b hb
    exact ih ((newObject?_succ.mp h).2 b hb)

/-- Where no class that is reached leads back to itself, the classes of which objects are being
made are always different, so there is room for as many as there are classes. -/
theorem newObject?_of_active (hclosed : ∀ a ∈ m.names, ∀ b, m.Starts a b → b ∈ m.names)
    (active : List String) (ha : a ∈ m.names)
    (hacyclic : ∀ b, ReflTransGen m.Starts a b → ¬TransGen m.Starts b b)
    (hactive : ∀ b ∈ active, b ∈ m.names ∧ TransGen m.Starts b a) (hnodup : active.Nodup)
    (hroom : m.names.length ≤ depth + active.length) : (m.newObject? depth a).isSome := by
  induction depth generalizing a active with
  | zero =>
    have hnew : a ∉ active := fun hmem => hacyclic a .refl (hactive a hmem).2
    have hlength := ((List.nodup_cons.mpr ⟨hnew, hnodup⟩).subperm
      (List.cons_subset.mpr ⟨ha, fun b hb => (hactive b hb).1⟩)).length_le
    rw [List.length_cons] at hlength
    omega
  | succ depth ih =>
    have hnew : a ∉ active := fun hmem => hacyclic a .refl (hactive a hmem).2
    obtain ⟨d, hd, hname⟩ := List.mem_map.mp ha
    rw [newObject?_succ]
    constructor
    · rw [class?, List.find?_isSome]
      exact ⟨d, hd, by simpa using hname⟩
    · intro b hb
      apply ih (a :: active) (hclosed a ha b hb)
      · exact fun c hc => hacyclic c (.head hb hc)
      · intro c hc
        rcases List.mem_cons.mp hc with rfl | hc
        · exact ⟨ha, .single hb⟩
        · exact ⟨(hactive c hc).1, (hactive c hc).2.tail hb⟩
      · exact List.nodup_cons.mpr ⟨hnew, hnodup⟩
      · rw [List.length_cons]
        omega

/-- An object of a class is made, with no more objects inside one another than there are classes,
exactly if no class that its fields lead to is led back to. -/
theorem newObject?_iff (hclosed : ∀ a ∈ m.names, ∀ b, m.Starts a b → b ∈ m.names)
    (ha : a ∈ m.names) :
    ((∃ depth v, m.newObject? depth a = some v) ↔
      ∀ b, ReflTransGen m.Starts a b → ¬TransGen m.Starts b b) ∧
    ∀ depth v, m.newObject? depth a = some v → m.newObject? m.classes.length a = some v := by
  have hacyclic {depth : Nat} {v : Value} (h : m.newObject? depth a = some v) :
      ∀ b, ReflTransGen m.Starts a b → ¬TransGen m.Starts b b := fun b hb =>
    not_circular_of_acc (acc_of_newObject? (Option.isSome_iff_exists.mpr ⟨v, h⟩)) hb
  have hmade (h : ∀ b, ReflTransGen m.Starts a b → ¬TransGen m.Starts b b) :
      ∃ v, m.newObject? m.classes.length a = some v := by
    have hroom : m.names.length ≤ m.classes.length + ([] : List String).length := by
      simp [names]
    exact Option.isSome_iff_exists.mp
      (newObject?_of_active hclosed [] ha h (by simp) List.nodup_nil hroom)
  constructor
  · constructor
    · rintro ⟨depth, v, h⟩
      exact hacyclic h
    · exact fun h => ⟨_, hmade h⟩
  · intro depth v h
    obtain ⟨w, hw⟩ := hmade (hacyclic h)
    have hv := newObject?_mono h (Nat.le_max_left depth m.classes.length)
    have hw' := newObject?_mono hw (Nat.le_max_right depth m.classes.length)
    rw [hw, ← hw', hv]

/-! The classes of a build. -/

variable {all : List Declaration} {m' : Manifest}

/-- Whether or not its accessors are compiled, the fields of a build have types that refer to its
classes. -/
theorem built_fields_formed (hm : Resolve.manifest all = .ok m)
    (hcompiled : m' = m ∨ m.compile = .ok m') : m'.FieldsFormed := by
  rcases hcompiled with rfl | hcompile
  · exact Resolve.fields_formed hm
  · exact fun c hc p hp _ => (compiled_formed hm hcompile c hc p hp).type

theorem FieldsFormed.type (hfields : m.FieldsFormed) (hd : d ∈ m.classes)
    (hp : p ∈ m.allFields d) : p.type.Formed m.names := by
  obtain ⟨hp, hfield⟩ := List.mem_filter.mp hp
  obtain ⟨owner, howner, hp⟩ := mem_allProperties.mp hp
  exact hfields owner (mem_ancestry hd howner) p hp (by simpa using hfield)

theorem FieldsFormed.starts (hfields : m.FieldsFormed) (h : m.Starts a b) : b ∈ m.names := by
  obtain ⟨d, p, hd, hp, htype⟩ := h
  have hformed := hfields.type (mem_of_class? hd) hp
  rw [htype] at hformed
  cases hformed with
  | reference hmem => exact hmem

/-- Making an object of a class of a build with the defaults of all its fields. Every target sets a
field to what it starts with, a new object where its type is a class; making them ends exactly if
no class that the fields lead to is led back to, and then no more objects are made inside one
another than there are classes. -/
theorem construction_ends_iff (hm : Resolve.manifest all = .ok m)
    (hcompiled : m' = m ∨ m.compile = .ok m') (hd : d ∈ m'.classes) :
    (∀ p ∈ m'.allFields d, ∀ t : Target, ∃ type, t.typeName p.type = .ok type ∧
      t.initializer p = .ok (t.startText type p.start)) ∧
    ((∃ depth v, m'.newObject? depth d.name = some v) ↔
      ∀ b, ReflTransGen m'.Starts d.name b → ¬TransGen m'.Starts b b) ∧
    ∀ depth v, m'.newObject? depth d.name = some v →
      m'.newObject? m'.classes.length d.name = some v := by
  have hfields := built_fields_formed hm hcompiled
  refine ⟨fun p hp t => ?_, ?_⟩
  · obtain ⟨type, htype⟩ := (hfields.type hd hp).exists_typeName t
    exact ⟨type, htype, t.initializer_start htype⟩
  · exact newObject?_iff (fun _ _ _ hb => hfields.starts hb) (List.mem_map_of_mem hd)

end Manifest

namespace Sample

/-- A class with a field that starts with a new object. -/
def holder (name part : String) : Declaration where
  name := name
  base := none
  members := [.field "part" 2 (some (.call (.name part))) none]
  source := "parts.py"
  line := 1

def holderClass (name part : String) : ClassDecl :=
  { name := name, properties := [{ name := "part", type := .reference part }],
    source := some "parts.py" }

/-- A folder holds a tag. -/
def folders : Manifest := ⟨[holderClass "Folder" "Tag", tagClass]⟩

/-- A node holds a node. -/
def nodes : Manifest := ⟨[holderClass "Node" "Node"]⟩

theorem folders_eq : Resolve.manifest [holder "Folder" "Tag", tag] = .ok folders := rfl

end Sample

/-- A folder is made with a tag that has no label. -/
theorem Manifest.construction_ends_folder :
    Sample.folders.newObject? 2 "Folder" =
        some (.object "Folder" [("part", .object "Tag" [("label", .null)])]) ∧
      ∀ b, ReflTransGen Sample.folders.Starts "Folder" b → ¬TransGen Sample.folders.Starts b b := by
  have hmade : Sample.folders.newObject? 5 "Folder" =
      some (.object "Folder" [("part", .object "Tag" [("label", .null)])]) := rfl
  obtain ⟨-, hends, hdepth⟩ := construction_ends_iff (d := Sample.holderClass "Folder" "Tag")
    Sample.folders_eq (.inl rfl) List.mem_cons_self
  exact ⟨hdepth 5 _ hmade, hends.mp ⟨5, _, hmade⟩⟩

/-- A class whose field starts with a new object of the class itself. -/
theorem Manifest.construction_endless :
    Resolve.manifest [Sample.holder "Node" "Node"] = .ok Sample.nodes ∧
      Sample.nodes.compile = .ok Sample.nodes ∧
      (∀ t : Target, t.initializer { name := "part", type := .reference "Node" } =
        .ok (t.madeText "Node")) ∧
      TransGen Sample.nodes.Starts "Node" "Node" ∧
      ∀ depth, Sample.nodes.newObject? depth "Node" = none := by
  have hstarts : Sample.nodes.Starts "Node" "Node" :=
    ⟨Sample.holderClass "Node" "Node", _, rfl, List.mem_cons_self, rfl⟩
  refine ⟨rfl, rfl, fun t => by cases t <;> rfl, .single hstarts, fun depth => ?_⟩
  induction depth with
  | zero => rfl
  | succ depth ih =>
    rw [← Option.not_isSome_iff_eq_none, newObject?_succ]
    rintro ⟨-, h⟩
    have hnode := h "Node" hstarts
    rw [ih] at hnode
    cases hnode

end ViewModel
