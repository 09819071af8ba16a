import Mathlib.Data.List.Induction
import Mathlib.Data.List.Nodup
import ViewModel.Value

/-!
Entries by name: what is found after entries are put together, picked out, changed or inserted, and
that inserting keeps every name once.
-/

namespace ViewModel.Entries

variable {α β : Type} {es fs : List (String × α)} {key : String}

theorem find?_append (es fs : List (String × α)) (key : String) :
    find? (es ++ fs) key = (find? es key).or (find? fs key) := by
  induction es with
  | nil => rfl
  | cons e es ih =>
    rw [List.cons_append, find?, find?]
    split
    · rfl
    · exact ih

/-- Entries whose keys are picked out are found as before. -/
theorem find?_filter (es : List (String × α)) (pick : String → Bool) (key : String) :
    find? (es.filter fun e => pick e.1) key = if pick key then find? es key else none := by
  induction es with
  | nil => simp [find?]
  | cons e es ih =>
    by_cases hkey : e.1 = key
    · cases hpick : pick key <;> simp [find?, hkey, hpick, ih]
    · cases hpick : pick e.1 <;> simp [find?, hkey, hpick, ih]

/-- What is found under a spelled name. -/
theorem find?_map {name : String → String} (f : α → β)
    (hname : ∀ e ∈ es, name e.1 = name key → e.1 = key) :
    find? (es.map fun e => (name e.1, f e.2)) (name key) = (find? es key).map f := by
  induction es with
  | nil => rfl
  | cons e rest ih =>
    obtain ⟨k, v⟩ := e
    have hrest := ih fun e he => hname e (List.mem_cons_of_mem _ he)
    rw [List.map_cons, find?, find?]
    by_cases hk : k = key
    · simp [hk]
    · have hne : name k ≠ name key := fun h => hk (hname (k, v) List.mem_cons_self h)
      simp [hk, hne, hrest]

theorem isSome_find? : (find? es key).isSome = true ↔ key ∈ es.map Prod.fst := by
  induction es with
  | nil => simp [find?]
  | cons e rest ih =>
    rw [find?, List.map_cons, List.mem_cons]
    split
    next h => simp [h]
    next h => simp [ih, Ne.symm h]

theorem map_insert (f : α → β) (es : List (String × α)) (key : String) (value : α) :
    (insert es key value).map (fun e => (e.1, f e.2)) =
      insert (es.map fun e => (e.1, f e.2)) key (f value) := by
  induction es with
  | nil => rfl
  | cons e rest ih =>
    rw [insert, List.map_cons, insert]
    split
    · rfl
    · rw [List.map_cons, ih]

theorem nodup_insert (h : (es.map Prod.fst).Nodup) (value : α) :
    ((insert es key value).map Prod.fst).Nodup := by
  induction es with
  | nil => simp [insert]
  | cons e rest ih =>
    obtain ⟨hfirst, hrest⟩ := List.nodup_cons.mp h
    rw [insert]
    split
    next => exact h
    next hne =>
      refine List.nodup_cons.mpr ⟨?_, ih hrest⟩
      rw [← isSome_find?, find?_insert_of_ne value hne, isSome_find?]
      exact hfirst

theorem ofList_concat (es : List (String × α)) (key : String) (value : α) :
    ofList (es ++ [(key, value)]) = insert (ofList es) key value := by
  rw [ofList, List.foldl_append]
  rfl

theorem map_ofList (f : α → β) (es : List (String × α)) :
    (ofList es).map (fun e => (e.1, f e.2)) = ofList (es.map fun e => (e.1, f e.2)) := by
  induction es using List.reverseRec with
  | nil => rfl
  | append_singleton es e ih =>
    rw [ofList_concat, map_insert, ih, List.map_append, List.map_singleton, ofList_concat]

theorem nodup_ofList (es : List (String × α)) : ((ofList es).map Prod.fst).Nodup := by
  induction es using List.reverseRec with
  | nil => exact .nil
  | append_singleton es e ih =>
    rw [ofList_concat]
    exact nodup_insert ih e.2

/-- Of the entries of a name the last one counts. -/
theorem find?_ofList (es : List (String × α)) (key : String) :
    find? (ofList es) key = ((es.filter fun e => e.1 = key).map Prod.snd).getLast? := by
  induction es using List.reverseRec with
  | nil => rfl
  | append_singleton es e ih =>
    rw [ofList_concat]
    by_cases h : e.1 = key
    · rw [h, find?_insert_self]
      simp [h]
    · rw [find?_insert_of_ne _ (Ne.symm h), ih]
      simp [h]

end ViewModel.Entries
