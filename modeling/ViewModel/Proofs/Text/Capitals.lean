import Mathlib.Data.List.Basic
import ViewModel.Proofs.Text.Words

/-!
What Pascal and camel case leave of an identifier: its letters and digits, with a capital for each
small letter that begins a word. Of names in snake case nothing is lost.
-/

namespace ViewModel.Text

variable {a b cs w : List Char} {c : Char}

/-- The letters and digits, where a small letter that does not come right after one of them is made
a capital. `after` tells whether one comes right before. -/
def capitals (after : Bool) : List Char → List Char
  | [] => []
  | c :: rest =>
      if isWordLetter c then (if after then c else c.toUpper) :: capitals true rest
      else capitals false rest

/-- Letters and digits are among the first characters, so what holds of those is looked up. -/
theorem of_isWordLetter {P : Char → Prop} (hc : isWordLetter c = true)
    (h : ∀ n < 123, isWordLetter (Char.ofNat n) = true → P (Char.ofNat n)) : P c := by
  have hlt : c.toNat < 123 := by
    simp only [isWordLetter, isUpperLetter, isLowerPart, Bool.or_eq_true, Bool.and_eq_true,
      decide_eq_true_eq, Char.le_def, UInt32.le_iff_toNat_le] at hc
    simp at hc
    omega
  rw [← Char.ofNat_toNat c] at hc ⊢
  exact h c.toNat hlt hc

theorem toUpper_of_upper (h : isUpperLetter c = true) : c.toUpper = c := by
  have hc : isWordLetter c = true := by simp [isWordLetter, h]
  revert h
  exact of_isWordLetter (P := fun c => isUpperLetter c = true → c.toUpper = c) hc (by decide)

/-- Where a word does not go on, the next character begins one already. -/
theorem capitals_of_not_continues (h : continues c cs = false) :
    capitals true cs = capitals false cs := by
  cases cs with
  | nil => rfl
  | cons d after =>
    rw [capitals, capitals]
    split
    next hd =>
      have hlower : isLowerPart d = false := by
        simp only [continues, Bool.or_eq_false_iff] at h
        exact h.1
      have hupper : isUpperLetter d = true := by simpa [isWordLetter, hlower] using hd
      simp [toUpper_of_upper hupper]
    · rfl

/-- The words put together, each but the first with a capital. -/
def joinAfter : List (List Char) → List Char
  | [] => []
  | w :: ws => w ++ ws.flatMap capitalize

theorem flatMap_capitalize_consFirst (c : Char) (ws : List (List Char)) :
    (consFirst c ws).flatMap capitalize = c.toUpper :: joinAfter ws := by
  cases ws <;> simp [consFirst, capitalize, joinAfter]

theorem joinAfter_consFirst (c : Char) (ws : List (List Char)) :
    joinAfter (consFirst c ws) = c :: joinAfter ws := by
  cases ws <;> simp [consFirst, joinAfter]

theorem isWordLetter_of_continues {d : Char} (h : continues c (d :: cs) = true) :
    isWordLetter d = true := by
  simp only [continues, Bool.or_eq_true, Bool.and_eq_true] at h
  rcases h with h | ⟨⟨h, -⟩, -⟩
  · simp [isWordLetter, h]
  · simp [isWordLetter, h]

/-- On the identifier: what comes after a letter or digit either goes on with its word, and then
the rest of that word stays as it is, or begins a word of its own. -/
theorem capitals_eq (cs : List Char) :
    (words cs).flatMap capitalize = capitals false cs ∧
      ∀ c rest, cs = c :: rest → isWordLetter c = true →
        joinAfter (words cs) = capitals true cs := by
  induction cs with
  | nil => exact ⟨rfl, by simp⟩
  | cons c rest ih =>
    obtain ⟨ih, ihAfter⟩ := ih
    by_cases hc : isWordLetter c = true
    · cases hcontinues : continues c rest with
      | true =>
        have hrest : joinAfter (words rest) = capitals true rest := by
          cases rest with
          | nil => cases hcontinues
          | cons d more => exact ihAfter d more rfl (isWordLetter_of_continues hcontinues)
        have hwords : words (c :: rest) = consFirst c (words rest) := by
          simp [words, hc, hcontinues]
        rw [hwords, flatMap_capitalize_consFirst, joinAfter_consFirst, hrest]
        simp [capitals, hc]
      | false =>
        have hwords : words (c :: rest) = [c] :: words rest := by
          simp [words, hc, hcontinues]
        have hrest := capitals_of_not_continues hcontinues
        simp [hwords, joinAfter, capitalize, capitals, hc, ih, hrest]
    · have hwords : words (c :: rest) = words rest := by simp [words, hc]
      constructor
      · rw [hwords, ih]
        simp [capitals, hc]
      · intro d more heq hd
        obtain ⟨rfl, -⟩ := List.cons.inj heq
        exact absurd hd hc

theorem pascalCase_eq (cs : List Char) : pascalCase cs = capitals false cs := (capitals_eq cs).1

theorem pascalCase_eq_nil : pascalCase cs = [] ↔ ∀ c ∈ cs, isWordLetter c = false := by
  rw [pascalCase_eq]
  induction cs with
  | nil => simp [capitals]
  | cons c rest ih =>
    rw [capitals, List.forall_mem_cons]
    split
    next hc => simp [hc]
    next hc => simp [hc, ih]

/-- The first character of a Pascal name is a capital or a digit. -/
theorem pascalCase_head {rest : List Char} (h : pascalCase cs = c :: rest) :
    c.toLower.toUpper = c := by
  rw [pascalCase_eq] at h
  induction cs with
  | nil => cases h
  | cons d more ih =>
    rw [capitals] at h
    split at h
    next hd =>
      obtain ⟨rfl, -⟩ := List.cons.inj h
      exact of_isWordLetter (P := fun d => d.toUpper.toLower.toUpper = d.toUpper) hd (by decide)
    · exact ih h

theorem camelCase_eq_nil : camelCase cs = [] ↔ pascalCase cs = [] := by
  unfold camelCase
  cases pascalCase cs <;> simp [uncapitalize]

/-- Pascal names are made of letters and digits. -/
theorem isWordLetter_of_mem_pascalCase (hc : c ∈ pascalCase cs) : isWordLetter c = true := by
  have hcapitals : ∀ after, c ∈ capitals after cs → isWordLetter c = true := by
    clear hc
    induction cs with
    | nil => simp [capitals]
    | cons d more ih =>
      intro after hc
      rw [capitals] at hc
      split at hc
      next hd =>
        rcases List.mem_cons.mp hc with rfl | hc
        · split
          · exact hd
          · exact of_isWordLetter (P := fun d => isWordLetter d.toUpper = true) hd (by decide)
        · exact ih true hc
      · exact ih false hc
  rw [pascalCase_eq] at hc
  exact hcapitals false hc

/-- So are camel names. -/
theorem isWordLetter_of_mem_camelCase (hc : c ∈ camelCase cs) : isWordLetter c = true := by
  have hparts : ∀ d ∈ pascalCase cs, isWordLetter d = true :=
    fun d => isWordLetter_of_mem_pascalCase
  unfold camelCase at hc
  cases hcs : pascalCase cs with
  | nil => simp [hcs, uncapitalize] at hc
  | cons d more =>
    rw [hcs, List.forall_mem_cons] at hparts
    rw [hcs, uncapitalize] at hc
    rcases List.mem_cons.mp hc with rfl | hc
    · exact of_isWordLetter (P := fun d => isWordLetter d.toLower = true) hparts.1 (by decide)
    · exact hparts.2 c hc

/-- Camel names tell the same identifiers apart as Pascal names do. -/
theorem camelCase_inj : camelCase a = camelCase b ↔ pascalCase a = pascalCase b := by
  constructor
  · intro h
    cases ha : pascalCase a with
    | nil => exact (camelCase_eq_nil.mp (h ▸ camelCase_eq_nil.mpr ha)).symm
    | cons c rest =>
      cases hb : pascalCase b with
      | nil =>
        have hnil := camelCase_eq_nil.mp (h.trans (camelCase_eq_nil.mpr hb))
        rw [ha] at hnil
        cases hnil
      | cons d more =>
        simp only [camelCase, ha, hb, uncapitalize, List.cons.injEq] at h
        obtain ⟨hfirst, rfl⟩ := h
        rw [← pascalCase_head ha, ← pascalCase_head hb, hfirst]
  · intro h
    rw [camelCase, camelCase, h]

/-! Names in snake case. -/

/-- Words of small letters and digits that each begin with a letter, with one underscore between
them. `start` tells whether a word has yet to begin. -/
def isSnake (start : Bool) : List Char → Bool
  | [] => !start
  | c :: rest =>
      if c = '_' then !start && isSnake true rest
      else isLowerPart c && (!start || decide ('a' ≤ c)) && isSnake false rest

/-- An underscore and a small letter for each capital. -/
def separated : List Char → List Char
  | [] => []
  | c :: rest =>
      if isUpperLetter c then '_' :: c.toLower :: separated rest else c :: separated rest

theorem small_letter (h : isLowerPart c = true) (hletter : 'a' ≤ c) :
    isUpperLetter c.toUpper = true ∧ c.toUpper.toLower = c := by
  have hc : isWordLetter c = true := by simp [isWordLetter, h]
  revert hletter
  revert h
  exact of_isWordLetter (P := fun c => isLowerPart c = true → 'a' ≤ c →
    isUpperLetter c.toUpper = true ∧ c.toUpper.toLower = c) hc (by decide)

theorem not_upper_of_lower (h : isLowerPart c = true) : isUpperLetter c = false := by
  have hc : isWordLetter c = true := by simp [isWordLetter, h]
  revert h
  exact of_isWordLetter (P := fun c => isLowerPart c = true → isUpperLetter c = false) hc
    (by decide)

theorem separated_capitals {start : Bool} (h : isSnake start cs = true) :
    separated (capitals (!start) cs) = if start then '_' :: cs else cs := by
  induction cs generalizing start with
  | nil =>
    cases start
    · rfl
    · cases h
  | cons c rest ih =>
    rw [isSnake] at h
    split at h
    next hc =>
      obtain ⟨hstart, hrest⟩ := Bool.and_eq_true_iff.mp h
      obtain rfl : start = false := by simpa using hstart
      have hmark : isWordLetter '_' = false := by decide
      have hih := ih hrest
      simp only [Bool.not_true, if_true] at hih
      simp [hc, capitals, hmark, hih]
    next hc =>
      obtain ⟨hboth, hrest⟩ := Bool.and_eq_true_iff.mp h
      obtain ⟨hlower, hletter⟩ := Bool.and_eq_true_iff.mp hboth
      have hword : isWordLetter c = true := by simp [isWordLetter, hlower]
      have hih := ih hrest
      simp only [Bool.not_false, Bool.false_eq_true, if_false] at hih
      cases start with
      | false =>
        have hupper := not_upper_of_lower hlower
        simp [capitals, hword, separated, hupper, hih]
      | true =>
        obtain ⟨hupper, hback⟩ := small_letter hlower (by simpa using hletter)
        simp [capitals, hword, separated, hupper, hback, hih]

/-- Pascal case keeps snake names apart: they are found again. -/
theorem snake_of_pascalCase (ha : isSnake true a = true) (hb : isSnake true b = true)
    (h : pascalCase a = pascalCase b) : a = b := by
  rw [pascalCase_eq, pascalCase_eq] at h
  have hsame := (separated_capitals ha).symm.trans ((congrArg separated h).trans
    (separated_capitals hb))
  exact (List.cons.inj hsame).2

theorem exists_isWordLetter (h : isSnake true cs = true) : ∃ c ∈ cs, isWordLetter c = true := by
  cases cs with
  | nil => cases h
  | cons c rest =>
    rw [isSnake] at h
    split at h
    · cases h
    · obtain ⟨hboth, -⟩ := Bool.and_eq_true_iff.mp h
      have hlower := (Bool.and_eq_true_iff.mp hboth).1
      exact ⟨c, List.mem_cons_self, by simp [isWordLetter, hlower]⟩

end ViewModel.Text
