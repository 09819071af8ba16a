import ViewModel.Proofs.Expr.Instance
import ViewModel.Proofs.Value.Entries

/-!
Names of members that a target spells in its own way. Reading an object by the spelled name of a
member gives what the object holds under the member, where spelling keeps names apart.
-/

namespace ViewModel

namespace Value

mutual

/-- A value and all values inside it. -/
def inside : Value → List Value
  | list items => list items :: insideItems items
  | mapping es => mapping es :: insideEntries es
  | record asText inspected es => record asText inspected es :: insideEntries es
  | v => [v]

def insideItems : List Value → List Value
  | [] => []
  | v :: rest => v.inside ++ insideItems rest

def insideEntries : List (String × Value) → List Value
  | [] => []
  | (_, v) :: rest => v.inside ++ insideEntries rest

end

variable {name : String → String} {v w : Value} {member : String}

theorem self_mem_inside (v : Value) : v ∈ v.inside := by
  cases v <;> simp [inside]

theorem inside_subset_insideEntries {es : List (String × Value)} (h : (member, v) ∈ es) :
    v.inside ⊆ insideEntries es := by
  induction es with
  | nil => cases h
  | cons e rest ih =>
    obtain ⟨k, x⟩ := e
    rw [insideEntries]
    rcases List.mem_cons.mp h with heq | h
    · obtain ⟨-, rfl⟩ := Prod.mk.inj heq
      exact List.subset_append_left _ _
    · exact List.subset_append_of_subset_right _ (ih h)

/-- Whatever is inside a part of an object is inside the object. -/
theorem inside_of_held? (hheld : v.held? member = some w) : w.inside ⊆ v.inside := by
  obtain ⟨es, hes, hfind⟩ := Option.bind_eq_some_iff.mp hheld
  have hsub := inside_subset_insideEntries (Entries.mem_of_find? hfind)
  have hes : v.inside = v :: insideEntries es := by
    cases v <;> simp_all [members?, inside]
  rw [hes]
  exact List.subset_cons_of_subset _ hsub

/-- The names of the parts of an object. -/
def memberNames (v : Value) : List String := (v.members?.getD []).map Prod.fst

/-- Spelling keeps the names of the members of an object apart, and of every object inside it. -/
def KeepsApart (name : String → String) (v : Value) : Prop :=
  ∀ w ∈ v.inside, ∀ a ∈ w.memberNames, ∀ b ∈ w.memberNames, name a = name b → a = b

instance (name : String → String) (v : Value) : Decidable (KeepsApart name v) :=
  inferInstanceAs (Decidable (∀ w ∈ v.inside, ∀ a ∈ w.memberNames, ∀ b ∈ w.memberNames,
    name a = name b → a = b))

theorem KeepsApart.held? (h : KeepsApart name v) (hheld : v.held? member = some w) :
    KeepsApart name w :=
  fun x hx => h x (inside_of_held? hheld hx)

/-- An object whose members have spelled names and translated values. -/
theorem find?_spelled {α : Type} (f : Value → α) (h : KeepsApart name v)
    {es : List (String × Value)} (hes : v.members? = some es) (hheld : v.held? member = some w) :
    Entries.find? (es.map fun e => (name e.1, f e.2)) (name member) = some (f w) := by
  have hfind : Entries.find? es member = some w := by
    simpa [Value.held?, hes] using hheld
  have hnames : v.memberNames = es.map Prod.fst := by
    rw [memberNames, hes]
    rfl
  rw [Entries.find?_map f, hfind, Option.map_some]
  intro e he hname
  have hv := h v (self_mem_inside v)
  rw [hnames] at hv
  exact hv _ (List.mem_map_of_mem he) _ (List.mem_map_of_mem (Entries.mem_of_find? hfind)) hname

end Value

/-- What a path leads to is inside the object, unless it is null. -/
theorem HasType.memberPath_inside {m : Manifest} {v : Value} {t u : TypeRef} {i : Nat}
    {path : List String} {nullSafe : List Int} (hpath : PathType m i t path nullSafe u)
    (hv : HasType m v t) : v.memberPath path = .null ∨ v.memberPath path ∈ v.inside := by
  induction hpath generalizing v with
  | nil => exact .inr v.self_mem_inside
  | strict hmember _ ih =>
    obtain ⟨w, hw, hwt⟩ := hv.member hmember
    rw [Value.memberPath_cons, Value.member_of_held? hw]
    exact (ih hwt).imp_right fun h => Value.inside_of_held? hw h
  | safe hmember _ ih =>
    rcases hv.nullable_cases with rfl | hv
    · exact .inl (Value.memberPath_null _)
    · obtain ⟨w, hw, hwt⟩ := hv.member hmember
      rw [Value.memberPath_cons, Value.member_of_held? hw]
      exact (ih hwt).imp_right fun h => Value.inside_of_held? hw h

end ViewModel
