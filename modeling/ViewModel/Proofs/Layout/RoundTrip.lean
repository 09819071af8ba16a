import ViewModel.Layout.Plan
import ViewModel.Proofs.Layout.Loading
import ViewModel.Proofs.Model.Alike
import ViewModel.Proofs.Value.Entries

/-!
Layouts and their documents. Reading and writing meet at a relation between a descriptor and its
node, so a layout that was read is written as the document without its empty lists, and read back
as it was.
-/

namespace ViewModel

namespace LayoutNode

variable {es : List (String × Value)} {key : String} {v : Value} {vs : List Value}
  {n : LayoutNode} {l : List LayoutNode} {ss : List String} {p : Option String}

/-! A descriptor and its node. -/

/-- Under a key stand these paths; where there are none, the key may be left out. -/
def Lists (es : List (String × Value)) (key : String) (ss : List String) : Prop :=
  (Entries.find? es key = none ∧ ss = []) ∨
    (Entries.find? es key = some (.list (ss.map .text)) ∧ "" ∉ ss)

/-- Under a key stands this path, if there is one. -/
def Names (es : List (String × Value)) (key : String) (p : Option String) : Prop :=
  Entries.find? es key = p.map .text ∧ p ≠ some ""

/-- The entries are those of a node, whatever stands inside. -/
structure Own (es : List (String × Value)) (n : LayoutNode) : Prop where
  keys : ∀ e ∈ es, e.1 ∈ LayoutNode.keys
  name : Entries.find? es "name" = some (.text n.name)
  named : n.name ≠ ""
  layout : ∀ v, Entries.find? es "layout" = some v → ∃ vs, v = .list vs
  ifAll : Lists es "if" n.ifAll
  unlessAny : Lists es "unless" n.unlessAny
  each : Names es "each" n.each
  importPath : Names es "import" n.importPath

/-- The value is a descriptor of the node. -/
inductive Spells : Value → LayoutNode → Prop
  | node {es : List (String × Value)} {n : LayoutNode} (own : Own es n)
      (more : List.Forall₂ Spells (inside es) n.layout) : Spells (.mapping es) n

/-! Reading gives the node that is described. -/

theorem nameOf_eq_ok_iff {s : String} :
    nameOf es = .ok s ↔ Entries.find? es "name" = some (.text s) ∧ s ≠ "" := by
  unfold nameOf
  cases Entries.find? es "name" with
  | none => simp
  | some v =>
    cases v with
    | text t =>
      by_cases ht : t = ""
      · simp [ht, eq_comm]
      · simp only [if_neg ht, Except.ok.injEq, Option.some.injEq, Value.text.injEq]
        exact ⟨fun h => ⟨h, h ▸ ht⟩, And.left⟩
    | _ => simp

theorem path?_eq_ok_iff : path? es key = .ok p ↔ Names es key p := by
  unfold path? Names
  cases Entries.find? es key with
  | none => cases p <;> simp
  | some v =>
    cases v with
    | text t =>
      by_cases ht : t = ""
      · cases p <;> simp [ht, eq_comm]
      · cases p with
        | none => simp [ht]
        | some s =>
          simp only [if_neg ht, Except.ok.injEq, Option.map_some, Option.some.injEq,
            Value.text.injEq]
          exact ⟨fun h => ⟨h, fun hs => ht (h.trans (Option.some.inj hs))⟩, And.left⟩
    | _ => cases p <;> simp

theorem paths_eq_ok_iff : paths es key = .ok ss ↔ Lists es key ss := by
  unfold paths Lists
  cases Entries.find? es key with
  | none => simp [eq_comm]
  | some v =>
    cases v with
    | list vs =>
      rw [Success.mapM_eq_ok]
      calc
        _ ↔ List.Forall₂ (fun v s => v ≠ .text "" ∧ v = .text s) vs ss := by
          constructor
          · refine fun h => h.imp fun v s hv => ?_
            split at hv
            next t =>
              split at hv
              · cases hv
              next ht =>
                obtain rfl := Except.ok.inj hv
                exact ⟨by simpa using ht, rfl⟩
            · cases hv
          · refine fun h => h.imp fun v s hv => ?_
            obtain ⟨hne, rfl⟩ := hv
            exact if_neg (by simpa using hne)
        _ ↔ (∀ v ∈ vs, v ≠ .text "") ∧ vs = ss.map .text := by
          rw [List.forall₂_and_left, ← List.forall₂_map_right_iff (R := Eq),
            List.forall₂_eq_eq_eq]
        _ ↔ _ := by
          simp only [reduceCtorEq, false_and, false_or, Option.some.injEq, Value.list.injEq]
          constructor
          · rintro ⟨hne, rfl⟩
            exact ⟨rfl, fun hs => hne _ (List.mem_map_of_mem hs) rfl⟩
          · rintro ⟨rfl, hne⟩
            refine ⟨fun v hv => ?_, rfl⟩
            obtain ⟨s, hs, rfl⟩ := List.mem_map.mp hv
            rintro hempty
            exact hne (Value.text.inj hempty ▸ hs)
    | _ => simp

/-- Reading the entries themselves leaves open what stands inside. -/
theorem shallow_eq_ok_iff : shallow es = .ok n ↔ Own es n ∧ n.layout = [] := by
  rw [shallow_eq]
  simp only [Success.bind_eq_ok, Success.pure_eq_ok]
  constructor
  · rintro ⟨_, hkeys, name, hname, _, hlayout, ifAll, hif, unlessAny, hunless, each, heach,
      importPath, himport, rfl⟩
    obtain ⟨hname, hnamed⟩ := nameOf_eq_ok_iff.mp hname
    exact ⟨⟨checkKeys_eq_ok.mp hkeys, hname, hnamed, checkLayout_eq_ok.mp hlayout,
      paths_eq_ok_iff.mp hif, paths_eq_ok_iff.mp hunless, path?_eq_ok_iff.mp heach,
      path?_eq_ok_iff.mp himport⟩, rfl⟩
  · rintro ⟨h, hempty⟩
    refine ⟨(), checkKeys_eq_ok.mpr h.keys, _, nameOf_eq_ok_iff.mpr ⟨h.name, h.named⟩, (),
      checkLayout_eq_ok.mpr h.layout, _, paths_eq_ok_iff.mpr h.ifAll, _,
      paths_eq_ok_iff.mpr h.unlessAny, _, path?_eq_ok_iff.mpr h.each, _,
      path?_eq_ok_iff.mpr h.importPath, ?_⟩
    cases n
    cases hempty
    rfl

theorem Own.congr (h : Own es n) (l : List LayoutNode) : Own es { n with layout := l } :=
  ⟨h.keys, h.name, h.named, h.layout, h.ifAll, h.unlessAny, h.each, h.importPath⟩

theorem ofList_eq_ok
    (h : ∀ v ∈ vs, ∀ position n, ofValue position v = .ok n ↔ Spells v n)
    (position : List Nat) (i : Nat) :
    ofList position i vs = .ok l ↔ List.Forall₂ Spells vs l := by
  induction vs generalizing i l with
  | nil => simp [ofList, eq_comm]
  | cons v vs ih =>
    obtain ⟨hv, hvs⟩ := List.forall_mem_cons.mp h
    rw [ofList, List.forall₂_cons_left_iff]
    simp only [Success.bind_eq_ok, Success.pure_eq_ok, hv, ih hvs]
    constructor
    · rintro ⟨n, hn, l, hl, rfl⟩
      exact ⟨n, l, hn, hl, rfl⟩
    · rintro ⟨n, l, hn, hl, rfl⟩
      exact ⟨n, hn, l, hl, rfl⟩

theorem ofValue_eq_ok : ∀ v position n, ofValue position v = .ok n ↔ Spells v n
  | .mapping es, position, n => by
    have hlist := ofList_eq_ok (l := n.layout)
      (fun w (_ : w ∈ inside es) => ofValue_eq_ok w) position 0
    rw [ofValue, ofEntries_eq]
    simp only [Success.bind_eq_ok, Success.pure_eq_ok, Success.mapError_eq_ok, shallow_eq_ok_iff]
    constructor
    · rintro ⟨bare, ⟨hown, -⟩, l, hl, rfl⟩
      exact .node (hown.congr l) (hlist.mp hl)
    · rintro ⟨hown, hmore⟩
      refine ⟨_, ⟨hown.congr [], rfl⟩, _, hlist.mpr hmore, ?_⟩
      cases n
      rfl
  | .null, position, n | .bool _, position, n | .int _, position, n | .float _, position, n
  | .text _, position, n | .list _, position, n | .record .., position, n => by
    constructor
    · intro h
      cases h
    · intro h
      cases h
termination_by v => sizeOf v
decreasing_by exact sizeOf_inside ‹_›

/-! What is written for a node. -/

/-- The entry of a key, where it has a value. -/
def entry (key : String) (v : Option Value) : List (String × Value) := (v.map (key, ·)).toList

/-- A list that is left out where it is empty. -/
def listed (vs : List Value) : Option Value := if vs.isEmpty then none else some (.list vs)

def entries (n : LayoutNode) : List (String × Value) :=
  entry "name" (some (.text n.name)) ++ entry "if" (listed (n.ifAll.map .text)) ++
    entry "unless" (listed (n.unlessAny.map .text)) ++ entry "each" (n.each.map .text) ++
    entry "import" (n.importPath.map .text) ++ entry "layout" (listed (toValues n.layout))

theorem toValue_eq (n : LayoutNode) : toValue n = .mapping n.entries := by
  obtain ⟨name, ifAll, unlessAny, each, importPath, layout⟩ := n
  have hlisted {α : Type} (f : List α → List Value) (hf : ∀ xs, (f xs).isEmpty = xs.isEmpty)
      (key : String) (xs : List α) : (if xs.isEmpty then [] else [(key, .list (f xs))]) =
        entry key (listed (f xs)) := by
    rw [listed, hf]
    split <;> rfl
  have hvalues (l : List LayoutNode) : (toValues l).isEmpty = l.isEmpty := by
    cases l <;> simp [toValues]
  rw [toValue, entries, hlisted (List.map .text) (by simp), hlisted (List.map .text) (by simp),
    hlisted toValues hvalues]
  simp [entry, Function.comp_def]

@[simp] theorem find?_entry (key other : String) (v : Option Value) :
    Entries.find? (entry key v) other = if key = other then v else none := by
  cases v <;> simp [entry, Entries.find?]

/-- What is written under a key. -/
def field? (n : LayoutNode) : String → Option Value
  | "name" => some (.text n.name)
  | "if" => listed (n.ifAll.map .text)
  | "unless" => listed (n.unlessAny.map .text)
  | "each" => n.each.map .text
  | "import" => n.importPath.map .text
  | "layout" => listed (toValues n.layout)
  | _ => none

theorem find?_entries (n : LayoutNode) (key : String) :
    Entries.find? n.entries key = n.field? key := by
  unfold field?
  split <;> simp_all [entries, Entries.find?_append, eq_comm]

theorem entries_keys (n : LayoutNode) : ∀ e ∈ n.entries, e.1 ∈ keys := by
  intro e he
  simp only [entries, entry, List.mem_append, Option.mem_toList,
    Option.map_eq_some_iff] at he
  rcases he with ((((⟨_, -, rfl⟩ | ⟨_, -, rfl⟩) | ⟨_, -, rfl⟩) | ⟨_, -, rfl⟩) | ⟨_, -, rfl⟩) |
    ⟨_, -, rfl⟩ <;> simp [keys]

theorem listed_eq_some {w : Value} (h : listed vs = some w) : w = .list vs := by
  unfold listed at h
  split at h
  · cases h
  · exact (Option.some.inj h).symm

theorem items_listed (vs : List Value) : ((listed vs).map Value.items).getD [] = vs := by
  cases vs <;> rfl

theorem inside_entries (n : LayoutNode) : inside n.entries = toValues n.layout := by
  rw [inside, find?_entries]
  exact items_listed _

theorem Lists.written (h : Lists es key ss) (fs : List (String × Value))
    (hfs : Entries.find? fs key = listed (ss.map .text)) : Lists fs key ss := by
  rcases h with ⟨-, rfl⟩ | ⟨-, hss⟩
  · exact .inl ⟨hfs, rfl⟩
  · cases ss with
    | nil => exact .inl ⟨hfs, rfl⟩
    | cons s ss => exact .inr ⟨hfs, hss⟩

/-- What is written for a node describes it. -/
theorem Own.entries (h : Own es n) : Own n.entries n where
  keys := entries_keys n
  name := find?_entries n "name"
  named := h.named
  layout _ hv := ⟨_, listed_eq_some ((find?_entries n "layout").symm.trans hv)⟩
  ifAll := h.ifAll.written _ (find?_entries n "if")
  unlessAny := h.unlessAny.written _ (find?_entries n "unless")
  each := ⟨find?_entries n "each", h.each.2⟩
  importPath := ⟨find?_entries n "import", h.importPath.2⟩

theorem toValues_eq_map (l : List LayoutNode) : toValues l = l.map toValue := by
  induction l with
  | nil => rfl
  | cons n l ih => rw [toValues, ih, List.map_cons]

/-- Induction over descriptors and their nodes: what holds of all descriptors inside one holds of
it. -/
theorem Spells.induct {motive : Value → LayoutNode → Prop}
    (node : ∀ es n, Own es n → List.Forall₂ motive (inside es) n.layout → motive (.mapping es) n)
    (h : Spells v n) : motive v n := by
  induction hsize : sizeOf v using Nat.strongRecOn generalizing v n with
  | ind size ih =>
    cases h with
    | node own more =>
      refine node _ _ own (List.forall₂_iff_get.mpr ⟨more.length_eq, fun i hv hn => ?_⟩)
      have hless := sizeOf_inside (List.get_mem _ ⟨i, hv⟩)
      exact ih _ (hsize ▸ hless) ((List.forall₂_iff_get.mp more).2 i hv hn) rfl

theorem Spells.toValue (h : Spells v n) : Spells n.toValue n := by
  refine h.induct (motive := fun _ n => Spells n.toValue n) fun es n own more => ?_
  rw [toValue_eq]
  refine .node own.entries ?_
  rw [inside_entries, toValues_eq_map, List.forall₂_map_left_iff]
  exact List.forall₂_same.mpr fun m hm => (Success.exists_left more hm).elim fun _ h => h.2

/-! The document without its empty lists. -/

/-- Whether an empty list stands under a key that may be left out. -/
def isIdle (es : List (String × Value)) (key : String) : Bool :=
  ["if", "unless", "layout"].contains key &&
    match Entries.find? es key with
    | some (.list []) => true
    | _ => false

/-- The entries of a descriptor that are left, as `fs` has them, without its empty lists. -/
def withoutIdle (es fs : List (String × Value)) : List (String × Value) :=
  fs.filter fun e => !isIdle es e.1

mutual

/-- A descriptor without its empty lists, at every depth. -/
def trimmed : Value → Value
  | .mapping es => .mapping (withoutIdle es (trimmedEntries es))
  | v => v

def trimmedEntries : List (String × Value) → List (String × Value)
  | [] => []
  | (key, v) :: rest => (key, if key = "layout" then trimmedLayout v else v) :: trimmedEntries rest

/-- The descriptors of a list, each without its empty lists. -/
def trimmedLayout : Value → Value
  | .list vs => .list (trimmedItems vs)
  | v => v

def trimmedItems : List Value → List Value
  | [] => []
  | v :: rest => trimmed v :: trimmedItems rest

end

theorem trimmedItems_eq_map (vs : List Value) : trimmedItems vs = vs.map trimmed := by
  induction vs with
  | nil => rfl
  | cons v vs ih => rw [trimmedItems, ih, List.map_cons]

theorem find?_trimmedEntries (es : List (String × Value)) (key : String) :
    Entries.find? (trimmedEntries es) key =
      (Entries.find? es key).map fun v => if key = "layout" then trimmedLayout v else v := by
  induction es with
  | nil => rfl
  | cons e es ih =>
    obtain ⟨k, v⟩ := e
    rw [trimmedEntries, Entries.find?, Entries.find?]
    split
    next hk => rw [hk, Option.map_some]
    · exact ih

/-- What stands under a key once the empty lists are left out. -/
theorem find?_trimmed (es : List (String × Value)) (key : String) :
    Entries.find? (withoutIdle es (trimmedEntries es)) key =
      if isIdle es key then none
      else (Entries.find? es key).map fun v => if key = "layout" then trimmedLayout v else v := by
  rw [withoutIdle, Entries.find?_filter _ (fun key => !isIdle es key), find?_trimmedEntries]
  cases isIdle es key <;> rfl

theorem Lists.find?_trimmed (h : Lists es key ss) (hkey : key = "if" ∨ key = "unless") :
    Entries.find? (withoutIdle es (trimmedEntries es)) key =
      listed (ss.map .text) := by
  have hlayout : key ≠ "layout" := by rcases hkey with rfl | rfl <;> decide
  have hlist : ["if", "unless", "layout"].contains key = true := by
    rcases hkey with rfl | rfl <;> decide
  rw [LayoutNode.find?_trimmed, isIdle, hlist]
  rcases h with ⟨hnone, rfl⟩ | ⟨hsome, -⟩
  · simp [hnone, listed]
  · cases ss <;> simp [hsome, hlayout, listed]

theorem Names.find?_trimmed (h : Names es key p) (hkey : key = "each" ∨ key = "import") :
    Entries.find? (withoutIdle es (trimmedEntries es)) key = p.map .text := by
  rw [LayoutNode.find?_trimmed, isIdle, h.1]
  rcases hkey with rfl | rfl <;> cases p <;> simp

/-- The modules inside stand under their key, each without its empty lists. -/
theorem Own.find?_trimmed_layout (h : Own es n) :
    Entries.find? (withoutIdle es (trimmedEntries es)) "layout" =
      listed ((inside es).map trimmed) := by
  rw [find?_trimmed, isIdle, inside]
  cases hv : Entries.find? es "layout" with
  | none => simp [listed]
  | some v =>
    obtain ⟨vs, rfl⟩ := h.layout v hv
    cases vs with
    | nil => simp [listed, Value.items]
    | cons v vs => simp [listed, Value.items, trimmedLayout, trimmedItems, trimmedItems_eq_map]

theorem listed_alike {ws : List Value} (h : List.Forall₂ Value.Alike vs ws) :
    Option.Rel Value.Alike (listed vs) (listed ws) := by
  cases h with
  | nil => exact .none
  | cons hv hvs => exact .some (.list (.cons hv hvs))

/-- What is written for a node is its descriptor without the empty lists, up to the order of
keys. -/
theorem Spells.alike (h : Spells v n) : n.toValue.Alike (trimmed v) := by
  refine h.induct (motive := fun v n => n.toValue.Alike (trimmed v)) fun es n own more => ?_
  rw [toValue_eq, trimmed]
  refine .mapping fun key => ?_
  have heq {o o' : Option Value} (h : o = o') : Option.Rel Value.Alike o o' := by
    subst h
    cases o with
    | none => exact .none
    | some v => exact .some (.refl v)
  rw [find?_entries]
  by_cases hkey : key ∈ keys
  · simp only [keys, List.mem_cons, List.not_mem_nil, or_false] at hkey
    rcases hkey with rfl | rfl | rfl | rfl | rfl | rfl
    · exact heq (by simp [find?_trimmed, isIdle, own.name, field?])
    · exact heq (own.ifAll.find?_trimmed (.inl rfl)).symm
    · exact heq (own.unlessAny.find?_trimmed (.inr rfl)).symm
    · exact heq (own.each.find?_trimmed (.inl rfl)).symm
    · exact heq (own.importPath.find?_trimmed (.inr rfl)).symm
    · rw [own.find?_trimmed_layout, field?]
      refine listed_alike ?_
      rw [toValues_eq_map, List.forall₂_map_left_iff, List.forall₂_map_right_iff]
      exact more.flip
  · have hnone : Entries.find? es key = none := by
      by_contra hsome
      obtain ⟨w, hw⟩ := Option.ne_none_iff_exists'.mp hsome
      exact hkey (own.keys _ (Entries.mem_of_find? hw))
    have hfield : n.field? key = none := by
      unfold field?
      split <;> simp_all [keys]
    exact heq (by simp [hfield, find?_trimmed, hnone])

end LayoutNode

namespace Layout

open LayoutNode

theorem ofValue_eq_ok {v : Value} {source : Option String} {l : Layout} :
    Layout.ofValue v source = .ok l ↔ ∃ vs, v = .list vs ∧ List.Forall₂ Spells vs l := by
  cases v with
  | list vs =>
    rw [Layout.ofValue, Success.mapError_eq_ok,
      ofList_eq_ok fun v _ => LayoutNode.ofValue_eq_ok v]
    simp
  | _ => simp [Layout.ofValue]

/-- A layout that was read is written as its document without the empty lists of conditions and of
modules at every depth, up to the order of keys. What is written is read as the same layout, and so
it has the same plan in every state. -/
theorem toValue_ofValue {v : Value} {source : Option String} {l : Layout}
    (h : Layout.ofValue v source = .ok l) :
    l.toValue.Alike (trimmedLayout v) ∧ ∀ source', Layout.ofValue l.toValue source' = .ok l ∧
      ∃ l', Layout.ofValue l.toValue source' = .ok l' ∧ ∀ known snapshot module,
        l'.units known snapshot module = l.units known snapshot module := by
  obtain ⟨vs, rfl, hspells⟩ := ofValue_eq_ok.mp h
  have hread (source' : Option String) : Layout.ofValue l.toValue source' = .ok l := by
    refine ofValue_eq_ok.mpr ⟨_, rfl, ?_⟩
    rw [toValues_eq_map, List.forall₂_map_left_iff]
    refine List.forall₂_same.mpr fun n hn => ?_
    obtain ⟨v, -, hv⟩ := Success.exists_left hspells hn
    exact hv.toValue
  refine ⟨?_, fun source' => ⟨hread source', l, hread source', fun _ _ _ => rfl⟩⟩
  rw [Layout.toValue, trimmedLayout, toValues_eq_map, trimmedItems_eq_map]
  refine .list ?_
  rw [List.forall₂_map_left_iff, List.forall₂_map_right_iff]
  exact hspells.flip.imp fun n v hv => hv.alike

end Layout

namespace Sample

/-- Empty lists on two levels, and keys in an order of their own. -/
def looseShelves : Value :=
  .list [.mapping [("unless", .list []), ("layout", .list
      [.mapping [("if", .list []), ("name", .text "tile"), ("layout", .list [])]]),
    ("if", .list [.text "user.isSignedIn"]), ("name", .text "shelf")]]

end Sample

theorem Layout.toValue_ofValue_shelves :
    ∃ l, Layout.ofValue Sample.looseShelves none = .ok l ∧ LayoutNode.leavesOf l = ["tile"] ∧
      l.toValue.Alike (.list [.mapping [("layout", .list [.mapping [("name", .text "tile")]]),
        ("if", .list [.text "user.isSignedIn"]), ("name", .text "shelf")]]) ∧
      Layout.ofValue l.toValue none = .ok l := by
  have houtcome : (match Layout.ofValue Sample.looseShelves none with
      | .ok l => some (LayoutNode.leavesOf l)
      | .error _ => none) = some ["tile"] := by decide +kernel
  split at houtcome
  next l hread =>
    obtain ⟨halike, hagain⟩ := Layout.toValue_ofValue hread
    have htrimmed : LayoutNode.trimmedLayout Sample.looseShelves =
        .list [.mapping [("layout", .list [.mapping [("name", .text "tile")]]),
          ("if", .list [.text "user.isSignedIn"]), ("name", .text "shelf")]] := rfl
    exact ⟨l, hread, Option.some.inj houtcome, htrimmed ▸ halike, (hagain none).1⟩
  · cases houtcome

end ViewModel
