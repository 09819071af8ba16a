import Mathlib.Data.List.Basic
import ViewModel.Layout.Node
import ViewModel.Proofs.Success

/-!
Which documents are layouts, and which descriptor a refusal points at. A position leads down from
the document, one index for each level, so that in the lexicographic order of positions a descriptor
comes before those inside it, and siblings come in the order of the document.
-/

namespace ViewModel

namespace LayoutNode

variable {es : List (String × Value)} {key : String} {v d : Value} {vs : List Value}
  {p r : List Nat}

/-! The rules for descriptors. -/

/-- A text that is not empty. -/
def IsFilled (v : Value) : Prop := ∃ s, v = .text s ∧ s ≠ ""

/-- What a descriptor itself has to keep, whatever stands inside it. -/
structure WellFormed (es : List (String × Value)) : Prop where
  keys : ∀ e ∈ es, e.1 ∈ LayoutNode.keys
  name : ∃ v, Entries.find? es "name" = some v ∧ IsFilled v
  conditions : ∀ key ∈ ["if", "unless"], ∀ v, Entries.find? es key = some v →
    ∃ vs, v = .list vs ∧ ∀ w ∈ vs, IsFilled w
  choices : ∀ key ∈ ["each", "import"], ∀ v, Entries.find? es key = some v → IsFilled v
  layout : ∀ v, Entries.find? es "layout" = some v → ∃ vs, v = .list vs

/-- The value is an object that keeps the rules itself. -/
def KeepsRules (v : Value) : Prop := ∃ es, v = .mapping es ∧ WellFormed es

/-- The descriptors right inside another one. -/
def inside (es : List (String × Value)) : List Value :=
  ((Entries.find? es "layout").map Value.items).getD []

/-- A descriptor that keeps the rules at every depth. -/
inductive Describes : Value → Prop
  | node {es : List (String × Value)} (own : WellFormed es)
      (more : ∀ v ∈ inside es, Describes v) : Describes (.mapping es)

/-- What a position leads to from a descriptor. -/
def descend : Value → List Nat → Option Value
  | v, [] => some v
  | .mapping es, i :: rest => (inside es)[i]?.bind (descend · rest)
  | _, _ :: _ => none

/-- The descriptor at a position of a document. -/
def descriptor? (vs : List Value) : List Nat → Option Value
  | [] => none
  | i :: rest => vs[i]?.bind (descend · rest)

/-- Of all positions that lead somewhere, the first one where a descriptor itself breaks a rule. -/
structure FirstBroken (find : List Nat → Option Value) (p : List Nat) : Prop where
  broken : ∃ d, find p = some d ∧ ¬KeepsRules d
  earlier : ∀ q < p, ∀ d, find q = some d → KeepsRules d

/-! Every rule is checked. -/

theorem checkKeys_eq_ok : checkKeys es = .ok () ↔ ∀ e ∈ es, e.1 ∈ LayoutNode.keys := by
  have hsorted : unknownKeys es = [] ↔ ∀ e ∈ es, e.1 ∈ LayoutNode.keys := by
    rw [unknownKeys, ← List.length_eq_zero_iff, List.length_mergeSort, List.length_eq_zero_iff]
    simp [List.filter_eq_nil_iff]
  rw [← hsorted, checkKeys]
  split
  next hnone => simp [hnone]
  next hsome => simpa using hsome

theorem nameOf_eq_ok : (∃ s, nameOf es = .ok s) ↔
    ∃ v, Entries.find? es "name" = some v ∧ IsFilled v := by
  unfold nameOf IsFilled
  cases Entries.find? es "name" with
  | none => simp
  | some v =>
    cases v with
    | text s => by_cases hs : s = "" <;> simp [hs]
    | _ => simp

theorem path?_eq_ok : (∃ s, path? es key = .ok s) ↔
    ∀ v, Entries.find? es key = some v → IsFilled v := by
  unfold path? IsFilled
  cases Entries.find? es key with
  | none => simp
  | some v =>
    cases v with
    | text s => by_cases hs : s = "" <;> simp [hs]
    | _ => simp

theorem paths_eq_ok : (∃ ss, paths es key = .ok ss) ↔
    ∀ v, Entries.find? es key = some v → ∃ vs, v = .list vs ∧ ∀ w ∈ vs, IsFilled w := by
  unfold paths
  cases Entries.find? es key with
  | none => simp
  | some v =>
    cases v with
    | list vs =>
      simp only [Success.exists_mapM_eq_ok, Option.some.injEq, forall_eq', Value.list.injEq,
        exists_eq_left']
      apply forall₂_congr
      intro w _
      cases w with
      | text s => by_cases hs : s = "" <;> simp [IsFilled, hs]
      | _ => simp [IsFilled]
    | _ => simp

/-- The check of what stands inside, as a step of its own. -/
def checkLayout (es : List (String × Value)) : Except LayoutError.Cause Unit :=
  match Entries.find? es "layout" with
  | none | some (.list _) => .ok ()
  | some _ => .error .layout

theorem checkLayout_eq_ok : checkLayout es = .ok () ↔
    ∀ v, Entries.find? es "layout" = some v → ∃ vs, v = .list vs := by
  unfold checkLayout
  cases Entries.find? es "layout" with
  | none => simp
  | some v => cases v <;> simp

theorem shallow_eq (es : List (String × Value)) : shallow es = (do
    checkKeys es
    let name ← nameOf es
    checkLayout es
    let ifAll ← paths es "if"
    let unlessAny ← paths es "unless"
    let each ← path? es "each"
    return { name, ifAll, unlessAny, each, importPath := ← path? es "import" }) := by
  unfold shallow checkLayout
  cases Entries.find? es "layout" with
  | none => rfl
  | some v => cases v <;> rfl

theorem shallow_eq_ok : (∃ n, shallow es = .ok n) ↔ WellFormed es := by
  rw [shallow_eq]
  constructor
  · rintro ⟨n, h⟩
    obtain ⟨_, hkeys, h⟩ := Success.bind_eq_ok.mp h
    obtain ⟨name, hname, h⟩ := Success.bind_eq_ok.mp h
    obtain ⟨_, hlayout, h⟩ := Success.bind_eq_ok.mp h
    obtain ⟨ifAll, hif, h⟩ := Success.bind_eq_ok.mp h
    obtain ⟨unlessAny, hunless, h⟩ := Success.bind_eq_ok.mp h
    obtain ⟨each, heach, h⟩ := Success.bind_eq_ok.mp h
    obtain ⟨importPath, himport, -⟩ := Success.bind_eq_ok.mp h
    have hconditions := And.intro (paths_eq_ok.mp ⟨_, hif⟩) (paths_eq_ok.mp ⟨_, hunless⟩)
    have hchoices := And.intro (path?_eq_ok.mp ⟨_, heach⟩) (path?_eq_ok.mp ⟨_, himport⟩)
    exact ⟨checkKeys_eq_ok.mp hkeys, nameOf_eq_ok.mp ⟨_, hname⟩, by simpa using hconditions,
      by simpa using hchoices, checkLayout_eq_ok.mp hlayout⟩
  · intro h
    obtain ⟨name, hname⟩ := nameOf_eq_ok.mpr h.name
    obtain ⟨ifAll, hif⟩ := paths_eq_ok.mpr (h.conditions "if" (by simp))
    obtain ⟨unlessAny, hunless⟩ := paths_eq_ok.mpr (h.conditions "unless" (by simp))
    obtain ⟨each, heach⟩ := path?_eq_ok.mpr (h.choices "each" (by simp))
    obtain ⟨importPath, himport⟩ := path?_eq_ok.mpr (h.choices "import" (by simp))
    rw [checkKeys_eq_ok.mpr h.keys, hname, checkLayout_eq_ok.mpr h.layout, hif, hunless, heach,
      himport]
    exact ⟨_, rfl⟩

/-! The first broken descriptor, level by level. -/

theorem keepsRules_mapping : KeepsRules (.mapping es) ↔ WellFormed es := by
  constructor
  · rintro ⟨_, h, hes⟩
    cases h
    exact hes
  · intro h
    exact ⟨es, rfl, h⟩

theorem Describes.descend (h : Describes v) (hd : descend v p = some d) : KeepsRules d := by
  induction p generalizing v with
  | nil =>
    obtain rfl := Option.some.inj hd
    cases h with
    | node own => exact keepsRules_mapping.mpr own
  | cons i rest ih =>
    cases h with
    | node own more =>
      obtain ⟨w, hw, hd⟩ := Option.bind_eq_some_iff.mp hd
      exact ih (more w (List.mem_of_getElem? hw)) hd

namespace FirstBroken

theorem here (h : ¬KeepsRules v) : FirstBroken (descend v) [] where
  broken := ⟨v, by rw [descend], h⟩
  earlier q hq := absurd hq (List.not_lt_nil q)

/-- A descriptor comes before those inside it. -/
theorem inside (own : WellFormed es) (h : FirstBroken (descriptor? (inside es)) p) :
    FirstBroken (descend (.mapping es)) p := by
  have hsame (i : Nat) (rest : List Nat) :
      descend (.mapping es) (i :: rest) = descriptor? (LayoutNode.inside es) (i :: rest) := by
    rw [descend, descriptor?]
  obtain ⟨d, hd, hbroken⟩ := h.broken
  cases p with
  | nil => cases hd
  | cons i rest =>
    refine ⟨⟨d, (hsame i rest).trans hd, hbroken⟩, fun q hq e he => ?_⟩
    cases q with
    | nil =>
      rw [descend] at he
      obtain rfl := Option.some.inj he
      exact keepsRules_mapping.mpr own
    | cons j more => exact h.earlier _ hq e ((hsame j more).symm.trans he)

theorem head (h : FirstBroken (descend v) r) : FirstBroken (descriptor? (v :: vs)) (0 :: r) := by
  obtain ⟨d, hd, hbroken⟩ := h.broken
  refine ⟨⟨d, by simpa [descriptor?] using hd, hbroken⟩, fun q hq e he => ?_⟩
  cases q with
  | nil => cases he
  | cons j more =>
    obtain ⟨rfl, hless⟩ : j = 0 ∧ more < r := by
      simpa [List.cons_lt_cons_iff] using hq
    exact h.earlier more hless e (by simpa [descriptor?] using he)

theorem tail {k : Nat} (hv : Describes v) (h : FirstBroken (descriptor? vs) (k :: r)) :
    FirstBroken (descriptor? (v :: vs)) ((k + 1) :: r) := by
  obtain ⟨d, hd, hbroken⟩ := h.broken
  refine ⟨⟨d, by simpa [descriptor?] using hd, hbroken⟩, fun q hq e he => ?_⟩
  cases q with
  | nil => cases he
  | cons j more =>
    cases j with
    | zero => exact hv.descend (by simpa [descriptor?] using he)
    | succ j =>
      refine h.earlier (j :: more) ?_ e (by simpa [descriptor?] using he)
      simpa [List.cons_lt_cons_iff] using hq

end FirstBroken

/-! Reading a document. -/

theorem ofEntries_eq (position : List Nat) (es : List (String × Value)) :
    ofEntries position es = ofList position 0 (inside es) := by
  induction es with
  | nil =>
    rw [ofEntries, inside]
    rfl
  | cons e es ih =>
    obtain ⟨key, v⟩ := e
    rw [ofEntries, inside, Entries.find?]
    by_cases hkey : key = "layout"
    · rw [if_pos hkey, if_pos hkey]
      cases v <;> rfl
    · rw [if_neg hkey, if_neg hkey, ih, inside]

/-- The fault is that of the first broken descriptor; `position` leads to where the search starts. -/
def PointsAt (position : List Nat) (find : List Nat → Option Value)
    (fault : LayoutError.Fault) : Prop :=
  ∃ r cause, fault = .node (position ++ r) cause ∧ FirstBroken find r

/-- Reading gives a node of what is described, and points at the first broken descriptor
otherwise. -/
def Reads (v : Value) : Prop :=
  ∀ position, match ofValue position v with
    | .ok _ => Describes v
    | .error fault => PointsAt position (descend v) fault

theorem ofList_reads (h : ∀ v ∈ vs, Reads v) (position : List Nat) (i : Nat) :
    match ofList position i vs with
    | .ok _ => ∀ v ∈ vs, Describes v
    | .error fault => ∃ k r cause, fault = .node (position ++ (i + k) :: r) cause ∧
        FirstBroken (descriptor? vs) (k :: r) := by
  induction vs generalizing i with
  | nil => simp [ofList]
  | cons v vs ih =>
    obtain ⟨hv, hvs⟩ := List.forall_mem_cons.mp h
    have hfirst := hv (position ++ [i])
    have hrest := ih hvs (i + 1)
    rw [ofList]
    cases hnode : ofValue (position ++ [i]) v with
    | error fault =>
      rw [hnode] at hfirst
      obtain ⟨r, cause, rfl, hbroken⟩ := hfirst
      exact ⟨0, r, cause, by simp, hbroken.head⟩
    | ok node =>
      rw [hnode] at hfirst
      cases hnodes : ofList position (i + 1) vs with
      | error fault =>
        rw [hnodes] at hrest
        obtain ⟨k, r, cause, rfl, hbroken⟩ := hrest
        refine ⟨k + 1, r, cause, ?_, hbroken.tail hfirst⟩
        rw [Nat.add_right_comm, Nat.add_assoc]
      | ok nodes =>
        rw [hnodes] at hrest
        exact List.forall_mem_cons.mpr ⟨hfirst, hrest⟩

theorem sizeOf_inside (h : v ∈ inside es) : sizeOf v < sizeOf (Value.mapping es) := by
  unfold inside at h
  cases hfind : Entries.find? es "layout" with
  | none => simp [hfind] at h
  | some w =>
    cases w with
    | list vs =>
      have hv : v ∈ vs := by simpa [hfind, Value.items] using h
      have hlist := List.sizeOf_lt_of_mem (Entries.mem_of_find? hfind)
      have hitem := List.sizeOf_lt_of_mem hv
      simp only [Prod.mk.sizeOf_spec, Value.list.sizeOf_spec, Value.mapping.sizeOf_spec] at *
      omega
    | _ => simp [hfind, Value.items] at h

/-- The rules of a descriptor are checked before anything inside it is read. -/
theorem ofValue_reads : ∀ v, Reads v
  | .mapping es => by
    intro position
    have hreads : ∀ w ∈ inside es, Reads w := fun w _ => ofValue_reads w
    have hinside := ofList_reads hreads position 0
    rw [ofValue, ofEntries_eq]
    cases hnode : shallow es with
    | error cause =>
      refine ⟨[], cause, by rw [List.append_nil], .here fun h => ?_⟩
      obtain ⟨n, hn⟩ := shallow_eq_ok.mpr (keepsRules_mapping.mp h)
      rw [hnode] at hn
      cases hn
    | ok node =>
      have own := shallow_eq_ok.mp ⟨node, hnode⟩
      cases hnodes : ofList position 0 (inside es) with
      | error fault =>
        rw [hnodes] at hinside
        obtain ⟨k, r, cause, rfl, hbroken⟩ := hinside
        exact ⟨k :: r, cause, by rw [Nat.zero_add], hbroken.inside own⟩
      | ok nodes =>
        rw [hnodes] at hinside
        exact .node own hinside
  | .null | .bool _ | .int _ | .float _ | .text _ | .list _ | .record .. => by
    intro position
    refine ⟨[], .notAnObject, by rw [List.append_nil], .here ?_⟩
    rintro ⟨es, h, -⟩
    cases h
termination_by v => sizeOf v
decreasing_by exact sizeOf_inside ‹_›

end LayoutNode

namespace Layout

open LayoutNode

/-- A document is a layout if and only if it is a list of descriptors that keep the rules at every
depth; and a list that is refused is refused at the first descriptor that breaks a rule itself. -/
theorem ofValue_accepts (source : Option String) :
    (∀ v, (∃ l, Layout.ofValue v source = .ok l) ↔
      ∃ vs, v = .list vs ∧ ∀ d ∈ vs, Describes d) ∧
    ∀ vs e, Layout.ofValue (.list vs) source = .error e →
      ∃ position cause, e.fault = .node position cause ∧ e.source = source ∧
        e.fault.detail = LayoutError.place position ++ ": " ++ cause.detail ∧
        FirstBroken (descriptor? vs) position := by
  have hdescribes (vs : List Value) : ∀ d ∈ vs, Reads d := fun d _ => ofValue_reads d
  have hreads (vs : List Value) := ofList_reads (hdescribes vs) [] 0
  constructor
  · intro v
    constructor
    · rintro ⟨l, h⟩
      cases v with
      | list vs =>
        have hvs := hreads vs
        rw [Layout.ofValue, Success.mapError_eq_ok] at h
        rw [h] at hvs
        exact ⟨vs, rfl, hvs⟩
      | _ => cases h
    · rintro ⟨vs, rfl, hvs⟩
      have houtcome := hreads vs
      rw [Layout.ofValue]
      cases hlist : LayoutNode.ofList [] 0 vs with
      | ok l => exact ⟨l, rfl⟩
      | error fault =>
        rw [hlist] at houtcome
        obtain ⟨k, r, -, -, hbroken⟩ := houtcome
        obtain ⟨d, hd, hbreaks⟩ := hbroken.broken
        obtain ⟨w, hw, hd⟩ := Option.bind_eq_some_iff.mp hd
        exact absurd ((hvs w (List.mem_of_getElem? hw)).descend hd) hbreaks
  · intro vs e h
    have houtcome := hreads vs
    rw [Layout.ofValue] at h
    cases hlist : LayoutNode.ofList [] 0 vs with
    | ok l =>
      rw [hlist] at h
      cases h
    | error fault =>
      rw [hlist] at h houtcome
      obtain rfl := Except.error.inj h
      obtain ⟨k, r, cause, rfl, hbroken⟩ := houtcome
      rw [Nat.zero_add]
      exact ⟨k :: r, cause, rfl, rfl, rfl, hbroken⟩

end Layout

namespace Sample

/-- A tile whose name is empty stands inside a shelf, before one that is no object and before a
shelf with a key that none has. -/
def brokenShelves : List Value :=
  [.mapping [("name", .text "header")],
    .mapping [("name", .text "shelf"), ("each", .text "shelves"), ("layout", .list
      [.mapping [("name", .text "tile"), ("if", .list [.text "module.isNew"])],
        .mapping [("name", .text "")], .null])],
    .mapping [("nam", .text "footer")]]

end Sample

theorem Layout.ofValue_accepts_shelves :
    (∃ e, Layout.ofValue (.list Sample.brokenShelves) none = .error e ∧
      e.message = "[1].layout[1]: 'name' is required and must be a string") ∧
      LayoutNode.FirstBroken (LayoutNode.descriptor? Sample.brokenShelves) [1, 1] := by
  have houtcome : (match Layout.ofValue (.list Sample.brokenShelves) none with
      | .error ⟨.node position cause, none⟩ => some (position, cause)
      | _ => none) = some ([1, 1], .name) := by decide +kernel
  split at houtcome
  next position cause herror =>
    obtain ⟨rfl, rfl⟩ := Prod.mk.inj (Option.some.inj houtcome)
    obtain ⟨position, cause, hfault, -, -, hbroken⟩ :=
      (Layout.ofValue_accepts none).2 Sample.brokenShelves _ herror
    cases hfault
    exact ⟨⟨_, herror, by decide +kernel⟩, hbroken⟩
  · cases houtcome

end ViewModel
