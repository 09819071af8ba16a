import Mathlib.Data.List.Basic
import ViewModel.Text.Words

/-!
What the words of an identifier are made of. A snake name tells the words it is made of, but for
the case of their letters.
-/

namespace ViewModel.Text

variable {a b cs w : List Char} {c : Char}

/-- In small letters a character of a word is a small letter or a digit. -/
theorem isLowerPart_toLower (h : isWordLetter c) : isLowerPart c.toLower := by
  simp only [isWordLetter, isUpperLetter, isLowerPart, Bool.or_eq_true, Bool.and_eq_true,
    decide_eq_true_eq, Char.le_def, UInt32.le_iff_toNat_le] at h ⊢
  delta Char.toLower
  split
  · next hupper =>
    simp only [ge_iff_le, UInt32.le_iff_toNat_le] at hupper
    simp only [UInt32.toNat_add]
    have := c.val.toNat_lt
    simp at hupper ⊢
    omega
  · next hupper =>
    simp only [ge_iff_le, UInt32.le_iff_toNat_le] at hupper
    tauto

/-- Words are made of letters and digits, and are not empty. -/
theorem mem_words (hw : w ∈ words cs) : w ≠ [] ∧ ∀ c ∈ w, isWordLetter c := by
  induction cs generalizing w with
  | nil => cases hw
  | cons c rest ih =>
    rw [words] at hw
    split at hw
    · exact ih hw
    · next hc =>
      have hc : isWordLetter c := by simpa using hc
      have hone : [c] ≠ [] ∧ ∀ d ∈ [c], isWordLetter d := by simpa using hc
      split at hw
      · cases hrest : words rest with
        | nil =>
          rw [hrest, consFirst, List.mem_singleton] at hw
          exact hw ▸ hone
        | cons v vs =>
          rw [hrest] at ih
          rw [hrest, consFirst, List.mem_cons] at hw
          rcases hw with rfl | hw
          · have hv := (ih List.mem_cons_self).2
            exact ⟨List.cons_ne_nil _ _, List.forall_mem_cons.mpr ⟨hc, hv⟩⟩
          · exact ih (List.mem_cons_of_mem _ hw)
      · rcases List.mem_cons.mp hw with rfl | hw
        · exact hone
        · exact ih hw

/-- The words of an identifier in small letters. -/
def smallWords (cs : List Char) : List (List Char) := (words cs).map (·.map Char.toLower)

theorem mem_smallWords (hw : w ∈ smallWords cs) : w ≠ [] ∧ ∀ c ∈ w, isLowerPart c := by
  obtain ⟨v, hv, rfl⟩ := List.mem_map.mp hw
  obtain ⟨hne, hletters⟩ := mem_words hv
  refine ⟨by simpa using hne, fun d hd => ?_⟩
  obtain ⟨c, hc, rfl⟩ := List.mem_map.mp hd
  exact isLowerPart_toLower (hletters c hc)

theorem snakeCase_eq (cs : List Char) : snakeCase cs = ['_'].intercalate (smallWords cs) := rfl

/-- A snake name starts with a small letter or a digit, if it has any character. -/
theorem snakeCase_head (h : (snakeCase cs).head? = some c) : isLowerPart c := by
  rw [snakeCase_eq] at h
  cases hwords : smallWords cs with
  | nil => simp [hwords] at h
  | cons w ws =>
    obtain ⟨hne, hletters⟩ := mem_smallWords (hwords ▸ List.mem_cons_self : w ∈ smallWords cs)
    obtain ⟨d, w, rfl⟩ := List.exists_cons_of_ne_nil hne
    have hd : d = c := by
      cases ws <;> simpa [hwords, List.intercalate_cons_cons] using h
    exact hd ▸ hletters d List.mem_cons_self

theorem mem_snakeCase (h : c ∈ snakeCase cs) : isLowerPart c ∨ c = '_' := by
  rw [snakeCase_eq] at h
  generalize hws : smallWords cs = ws at h
  have hletters : ∀ w ∈ ws, ∀ d ∈ w, isLowerPart d := fun w hw =>
    (mem_smallWords (hws ▸ hw)).2
  clear hws
  induction ws with
  | nil => simp at h
  | cons w ws ih =>
    have hw := hletters w List.mem_cons_self
    cases ws with
    | nil =>
      rw [List.intercalate_singleton] at h
      exact .inl (hw c h)
    | cons v vs =>
      rw [List.intercalate_cons_cons] at h
      rcases List.mem_append.mp h with h | h
      · rcases List.mem_append.mp h with h | h
        · exact .inl (hw c h)
        · exact .inr (List.mem_singleton.mp h)
      · exact ih h fun u hu => hletters u (List.mem_cons_of_mem _ hu)

/-- Words that are put together with underscores are found again. -/
theorem splitOn_snakeCase (h : smallWords cs ≠ []) :
    (snakeCase cs).splitOn '_' = smallWords cs := by
  refine List.splitOn_intercalate '_' (fun w hw hmem => ?_) h
  exact absurd ((mem_smallWords hw).2 _ hmem) (by decide)

theorem snakeCase_eq_nil : snakeCase cs = [] ↔ smallWords cs = [] := by
  constructor
  · intro h
    by_contra hne
    have hsplit := splitOn_snakeCase hne
    rw [h] at hsplit
    have hmem : [] ∈ smallWords cs := by rw [← hsplit]; simp
    exact (mem_smallWords hmem).1 rfl
  · intro h
    rw [snakeCase_eq, h]
    rfl

/-- Snake names are the same exactly for the same words, whatever the case of their letters. -/
theorem snakeCase_inj : snakeCase a = snakeCase b ↔ smallWords a = smallWords b := by
  constructor
  · intro h
    by_cases ha : smallWords a = []
    · have hb : smallWords b = [] := snakeCase_eq_nil.mp (h ▸ snakeCase_eq_nil.mpr ha)
      rw [ha, hb]
    · have hb : smallWords b ≠ [] := fun hb =>
        ha (snakeCase_eq_nil.mp (h ▸ snakeCase_eq_nil.mpr hb))
      rw [← splitOn_snakeCase ha, h, splitOn_snakeCase hb]
  · intro h
    rw [snakeCase_eq, h, snakeCase_eq]

end ViewModel.Text
