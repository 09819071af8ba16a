import Mathlib.Data.List.Forall2
import ViewModel.Model.Expr

/-!
When two values are the same plain data: the entries of a mapping have no order.
-/

namespace ViewModel

namespace Value

/-- The same plain data: lists agree item by item, and mappings key by key, in whatever order their
entries are. -/
inductive Alike : Value → Value → Prop
  | refl (v : Value) : Alike v v
  | list {vs ws : List Value} (h : List.Forall₂ Alike vs ws) : Alike (.list vs) (.list ws)
  | mapping {es fs : List (String × Value)}
      (h : ∀ key, Option.Rel Alike (Entries.find? es key) (Entries.find? fs key)) :
      Alike (.mapping es) (.mapping fs)

/-- Whatever is found under a key is found there again. -/
def Covers (es fs : List (String × Value)) : Prop :=
  ∀ key v, Entries.find? es key = some v → ∃ w, Entries.find? fs key = some w ∧ v.Alike w

namespace Alike

variable {v w : Value} {vs : List Value} {es : List (String × Value)}

theorem exists_mapping (h : (Value.mapping es).Alike w) : ∃ fs, w = .mapping fs ∧ Covers es fs := by
  cases h with
  | refl => exact ⟨es, rfl, fun key v hv => ⟨v, hv, .refl v⟩⟩
  | mapping h =>
    refine ⟨_, rfl, fun key v hv => ?_⟩
    have hkey := h key
    rw [hv] at hkey
    cases hw : Entries.find? _ key with
    | none =>
      rw [hw] at hkey
      cases hkey
    | some w =>
      rw [hw] at hkey
      cases hkey with
      | some halike => exact ⟨w, rfl, halike⟩

theorem exists_list (h : (Value.list vs).Alike w) :
    ∃ ws, w = .list ws ∧ List.Forall₂ Alike vs ws := by
  cases h with
  | refl => exact ⟨vs, rfl, List.forall₂_same.mpr fun v _ => .refl v⟩
  | list h => exact ⟨_, rfl, h⟩

theorem eq_of_scalar {s : Scalar} (h : s.toValue.Alike w) : w = s.toValue := by
  cases s <;> cases h <;> rfl

/-- A list without lists and mappings inside comes back as it is. -/
theorem eq_of_scalars {α : Type} {f : α → Scalar} {xs : List α}
    (h : (Value.list (xs.map fun x => (f x).toValue)).Alike w) :
    w = .list (xs.map fun x => (f x).toValue) := by
  obtain ⟨ws, rfl, hws⟩ := h.exists_list
  have hsame : List.Forall₂ (· = ·) (xs.map fun x => (f x).toValue) ws := by
    rw [List.forall₂_map_left_iff] at hws ⊢
    exact hws.imp fun x w hw => hw.eq_of_scalar.symm
  rw [List.forall₂_eq_eq_eq] at hsame
  rw [hsame]

end Alike

theorem Covers.scalar {es fs : List (String × Value)} (h : Covers es fs)
    (key : String) (s : Scalar) (hs : Entries.find? es key = some s.toValue) :
    Entries.find? fs key = some s.toValue := by
  obtain ⟨w, hw, halike⟩ := h key _ hs
  rw [hw, halike.eq_of_scalar]

/-! Whether two values are the same plain data can be computed. -/

mutual

def alike : Value → Value → Bool
  | .mapping es, .mapping fs =>
      covered fs es && fs.all fun f => (Entries.find? es f.1).isSome
  | .list vs, .list ws => alikeItems vs ws
  | .null, .null => true
  | .bool a, .bool b => a == b
  | .int a, .int b => a == b
  | .float a, .float b => a == b
  | .text a, .text b => a == b
  | _, _ => false

def alikeItems : List Value → List Value → Bool
  | [], [] => true
  | v :: vs, w :: ws => alike v w && alikeItems vs ws
  | _, _ => false

/-- Whether all entries are found again in `fs`. -/
def covered (fs : List (String × Value)) : List (String × Value) → Bool
  | [] => true
  | (key, v) :: rest =>
      (match Entries.find? fs key with
        | some w => alike v w
        | none => false) && covered fs rest

end

mutual

theorem alike_sound : ∀ (v : Value) {w : Value}, v.alike w = true → v.Alike w
  | .mapping es, w, h => by
    cases w with
    | mapping fs =>
      rw [alike, Bool.and_eq_true, List.all_eq_true] at h
      refine .mapping fun key => ?_
      cases hv : Entries.find? es key with
      | some v =>
        obtain ⟨w, hw, halike⟩ := covered_sound fs es h.1 (Entries.mem_of_find? hv)
        rw [hw]
        exact .some halike
      | none =>
        cases hw : Entries.find? fs key with
        | none => exact .none
        | some w =>
          have hsome := h.2 _ (Entries.mem_of_find? hw)
          simp [hv] at hsome
    | _ => simp [alike] at h
  | .list vs, w, h => by
    cases w with
    | list ws => exact .list (alikeItems_sound vs h)
    | _ => simp [alike] at h
  | .null, w, h => by
    cases w with
    | null => exact .refl _
    | _ => simp [alike] at h
  | .bool _, w, h | .int _, w, h | .float _, w, h | .text _, w, h => by
    cases w <;> simp [alike] at h
    subst h
    exact .refl _
  | .record .., w, h => by simp [alike] at h

theorem alikeItems_sound : ∀ (vs : List Value) {ws : List Value},
    alikeItems vs ws = true → List.Forall₂ Alike vs ws
  | [], ws, h => by
    cases ws with
    | nil => exact .nil
    | cons => simp [alikeItems] at h
  | v :: vs, ws, h => by
    cases ws with
    | nil => simp [alikeItems] at h
    | cons w ws =>
      rw [alikeItems, Bool.and_eq_true] at h
      exact .cons (alike_sound v h.1) (alikeItems_sound vs h.2)

theorem covered_sound (fs : List (String × Value)) : ∀ (es : List (String × Value)) {key : String}
    {v : Value}, covered fs es = true → (key, v) ∈ es →
      ∃ w, Entries.find? fs key = some w ∧ v.Alike w
  | (k, u) :: rest, key, v, h, hv => by
    rw [covered, Bool.and_eq_true] at h
    rcases List.mem_cons.mp hv with heq | hv
    · obtain ⟨rfl, rfl⟩ := Prod.mk.inj heq
      cases hw : Entries.find? fs key with
      | none => simp [hw] at h
      | some w =>
        rw [hw] at h
        exact ⟨w, rfl, alike_sound _ h.1⟩
    · exact covered_sound fs rest h.2 hv

end

end Value

end ViewModel
