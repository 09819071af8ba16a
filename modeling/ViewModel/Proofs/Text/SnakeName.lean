import Mathlib.Data.List.Chain
import ViewModel.Proofs.Text.Splitting

/-!
Names in snake case come back from their Pascal and camel forms, if of two words in a row at least
one has more than a single letter.
-/

namespace ViewModel.Text

variable {cs w : List Char} {ws : List (List Char)} {c : Char}

/-! Splitting loses nothing but what separates the words. -/

theorem flatten_consFirst (c : Char) (ws : List (List Char)) :
    (consFirst c ws).flatten = c :: ws.flatten := by
  cases ws <;> rfl

theorem flatten_words (cs : List Char) : (words cs).flatten = cs.filter isWordLetter := by
  induction cs with
  | nil => rfl
  | cons c cs ih =>
    rw [words]
    cases hc : isWordLetter c with
    | false => simp [hc, ih]
    | true =>
      rw [List.filter_cons_of_pos hc, ← ih]
      split
      next h => cases h
      split
      · exact flatten_consFirst c _
      · rfl

theorem filter_isWordLetter (h : ∀ c ∈ cs, isWordLetter c = true ∨ c = '_') :
    cs.filter isWordLetter = cs.filter (· ≠ '_') := by
  refine List.filter_congr fun c hc => ?_
  have hmark : isWordLetter '_' = false := by decide
  rcases h c hc with hletter | rfl
  · have hne : c ≠ '_' := by
      rintro rfl
      simp [hmark] at hletter
    simp [hletter, hne]
  · simp [hmark]

/-! Names in snake case. -/

/-- A small letter, and behind it small letters and digits. -/
def isSnakeWord : List Char → Bool
  | [] => false
  | c :: rest => 'a' ≤ c && c ≤ 'z' && rest.all isLowerPart

/-- The words of a name in snake case. No two single letters come one after the other. -/
structure SnakeName where
  words : List (List Char)
  clean : ∀ w ∈ words, isSnakeWord w = true
  apart : words.IsChain fun v w => ¬ (v.length = 1 ∧ w.length = 1)

/-- The name, with an underscore between words. -/
def SnakeName.chars (n : SnakeName) : List Char := ['_'].intercalate n.words

theorem toLower_of_lower (h : isLowerPart c = true) : c.toLower = c :=
  of_isWordLetter (P := fun c => isLowerPart c = true → c.toLower = c) (isWordLetter_of_lower h)
    (by decide) h

/-- A word in small letters, its first character apart. -/
theorem exists_of_isSnakeWord (h : isSnakeWord w = true) : ∃ c rest, w = c :: rest ∧
    isLowerPart c = true ∧ 'a' ≤ c ∧ ∀ d ∈ rest, isLowerPart d = true := by
  cases w with
  | nil => cases h
  | cons c rest =>
    simp only [isSnakeWord, Bool.and_eq_true, decide_eq_true_eq, List.all_eq_true] at h
    obtain ⟨⟨hfirst, hlast⟩, hrest⟩ := h
    exact ⟨c, rest, rfl, by simp [isLowerPart, hfirst, hlast], hfirst, hrest⟩

theorem map_toLower_of_lower (h : ∀ d ∈ w, isLowerPart d = true) : w.map Char.toLower = w := by
  conv_rhs => rw [← List.map_id w]
  exact List.map_congr_left fun d hd => toLower_of_lower (h d hd)

theorem map_toLower_of_isSnakeWord (h : isSnakeWord w = true) : w.map Char.toLower = w := by
  obtain ⟨c, rest, rfl, hc, -, hrest⟩ := exists_of_isSnakeWord h
  exact map_toLower_of_lower (List.forall_mem_cons.mpr ⟨hc, hrest⟩)

theorem map_toLower_capitalize (h : isSnakeWord w = true) :
    (capitalize w).map Char.toLower = w := by
  obtain ⟨c, rest, rfl, hc, hletter, hrest⟩ := exists_of_isSnakeWord h
  rw [capitalize, List.map_cons, (small_letter hc hletter).2, map_toLower_of_lower hrest]

/-- A small letter or a digit does not go on before a capitalized word, and a capital not if the
word has more than one letter. -/
theorem not_continues_capitalized (hws : ∀ w ∈ ws, isSnakeWord w = true)
    (hc : isUpperLetter c = false ∨ ∀ w ∈ ws.head?, w.length ≠ 1) :
    continues c (ws.flatMap capitalize) = false := by
  cases ws with
  | nil => rfl
  | cons w ws =>
    obtain ⟨d, rest, rfl, hd, hletter, hrest⟩ := exists_of_isSnakeWord (hws w List.mem_cons_self)
    have hupper : isUpperLetter d.toUpper = true := (small_letter hd hletter).1
    rw [List.flatMap_cons, capitalize, List.cons_append, continues, not_lower_of_upper hupper,
      hupper]
    rcases hc with hc | hc
    · simp [hc]
    · cases rest with
      | nil => exact absurd rfl (hc [d] rfl)
      | cons e rest => simp [hrest e List.mem_cons_self]

/-- Behind a word as it is, capitalized words are found. -/
theorem words_append_capitalized (hw : isSnakeWord w = true) (hws : ∀ w ∈ ws, isSnakeWord w = true) :
    words (w ++ ws.flatMap capitalize) = w :: words (ws.flatMap capitalize) := by
  obtain ⟨c, rest, rfl, hc, -, hrest⟩ := exists_of_isSnakeWord hw
  have hlast : isLowerPart (rest.getLastD c) = true :=
    getLastD_of_forall (List.forall_mem_cons.mpr ⟨hc, hrest⟩)
  exact words_append_lower (isWordLetter_of_lower hc) hrest
    (not_continues_capitalized hws (.inl (not_upper_of_lower hlast)))

/-- Behind a capitalized word too, but not a single letter behind another. -/
theorem words_capitalize_append (hw : isSnakeWord w = true) (hws : ∀ w ∈ ws, isSnakeWord w = true)
    (hapart : ∀ v ∈ ws.head?, ¬ (w.length = 1 ∧ v.length = 1)) :
    words (capitalize w ++ ws.flatMap capitalize) =
      capitalize w :: words (ws.flatMap capitalize) := by
  obtain ⟨c, rest, rfl, hc, hletter, hrest⟩ := exists_of_isSnakeWord hw
  have hupper : isUpperLetter c.toUpper = true := (small_letter hc hletter).1
  refine words_append_lower (isWordLetter_of_upper hupper) hrest
    (not_continues_capitalized hws ?_)
  cases rest with
  | nil => exact .inr fun v hv hone => hapart v hv ⟨rfl, hone⟩
  | cons d rest =>
    rw [List.getLastD_cons]
    exact .inl (not_upper_of_lower (getLastD_of_forall hrest))

theorem words_flatMap_capitalize (hws : ∀ w ∈ ws, isSnakeWord w = true)
    (hapart : ws.IsChain fun v w => ¬ (v.length = 1 ∧ w.length = 1)) :
    words (ws.flatMap capitalize) = ws.map capitalize := by
  induction ws with
  | nil => rfl
  | cons w ws ih =>
    obtain ⟨hw, hws⟩ := List.forall_mem_cons.mp hws
    obtain ⟨hfirst, hapart⟩ := List.isChain_cons.mp hapart
    rw [List.flatMap_cons, words_capitalize_append hw hws hfirst, ih hws hapart, List.map_cons]

namespace SnakeName

variable (n : SnakeName)

/-- The words of a name are found in it. -/
theorem words_chars : Text.words n.chars = n.words := by
  have hone : ∀ w ∈ n.words, Text.words w = [w] := by
    intro w hw
    have h := @words_append_capitalized w [] (n.clean w hw) (by simp)
    simpa [Text.words] using h
  calc
    Text.words n.chars = n.words.flatMap Text.words := words_intercalate n.words
    _ = n.words.flatMap fun w => [w] := List.flatMap_congr hone
    _ = n.words := by simp

theorem pascalCase_chars : pascalCase n.chars = n.words.flatMap capitalize := by
  rw [pascalCase, words_chars]

/-- The camel form leaves the first word as it is. -/
theorem camelCase_chars : camelCase n.chars = joinAfter n.words := by
  rw [camelCase, pascalCase_chars]
  cases hwords : n.words with
  | nil => rfl
  | cons w ws =>
    have hw : isSnakeWord w = true := n.clean w (hwords ▸ List.mem_cons_self)
    obtain ⟨c, rest, rfl, hc, hletter, -⟩ := exists_of_isSnakeWord hw
    simp [uncapitalize, capitalize, joinAfter, (small_letter hc hletter).2]

theorem words_pascalCase : Text.words (pascalCase n.chars) = n.words.map capitalize := by
  rw [pascalCase_chars, words_flatMap_capitalize n.clean n.apart]

theorem snakeCase_pascalCase : snakeCase (pascalCase n.chars) = n.chars := by
  have hsmall : (n.words.map capitalize).map (·.map Char.toLower) = n.words := by
    rw [List.map_map]
    conv_rhs => rw [← List.map_id n.words]
    exact List.map_congr_left fun w hw => map_toLower_capitalize (n.clean w hw)
  rw [snakeCase, words_pascalCase, hsmall, chars]

theorem snakeCase_camelCase : snakeCase (camelCase n.chars) = n.chars := by
  have hsmall : smallWords (camelCase n.chars) = smallWords (pascalCase n.chars) := by
    rw [smallWords, smallWords, words_pascalCase, camelCase_chars]
    cases hwords : n.words with
    | nil => rfl
    | cons w ws =>
      obtain ⟨hw, hws⟩ := List.forall_mem_cons.mp (hwords ▸ n.clean)
      obtain ⟨-, hapart⟩ := List.isChain_cons.mp (hwords ▸ n.apart)
      rw [joinAfter, words_append_capitalized hw hws, words_flatMap_capitalize hws hapart]
      simp [map_toLower_of_isSnakeWord hw, map_toLower_capitalize hw]
  rw [snakeCase_eq, hsmall, ← snakeCase_eq, snakeCase_pascalCase]

theorem chars_injective : Function.Injective chars := by
  intro m n h
  have hwords : m.words = n.words := by rw [← m.words_chars, h, n.words_chars]
  obtain ⟨words, _, _⟩ := m
  obtain ⟨words', _, _⟩ := n
  obtain rfl : words = words' := hwords
  rfl

end SnakeName

/-- The words of an identifier are those that the pattern finds. Put together, they are the
identifier without its underscores, and none is empty. A name in snake case comes back from its
Pascal and from its camel form, so no two names have a form in common. -/
theorem words_lossless :
    (∀ cs, words cs = (cs.splitOn '_').flatMap wordPattern.findAll) ∧
    (∀ cs, (∀ c ∈ cs, isWordLetter c = true ∨ c = '_') →
      (words cs).flatten = cs.filter (· ≠ '_') ∧ ∀ w ∈ words cs, w ≠ []) ∧
    (∀ n : SnakeName, snakeCase (pascalCase n.chars) = n.chars ∧
      snakeCase (camelCase n.chars) = n.chars) ∧
    ∀ m n : SnakeName, pascalCase m.chars = pascalCase n.chars ∨
      camelCase m.chars = camelCase n.chars ∨ pascalCase m.chars = camelCase n.chars → m = n := by
  refine ⟨words_eq_findAll, fun cs hcs => ⟨?_, fun w hw => (mem_words hw).1⟩,
    fun n => ⟨n.snakeCase_pascalCase, n.snakeCase_camelCase⟩, fun m n h => ?_⟩
  · rw [flatten_words, filter_isWordLetter hcs]
  · apply SnakeName.chars_injective
    rcases h with h | h | h
    · rw [← m.snakeCase_pascalCase, h, n.snakeCase_pascalCase]
    · rw [← m.snakeCase_camelCase, h, n.snakeCase_camelCase]
    · rw [← m.snakeCase_pascalCase, h, n.snakeCase_camelCase]

/-- Single letters at both ends of a name. -/
def SnakeName.lettered : SnakeName where
  words := [['a'], ['b', '2', 'c'], ['d']]
  clean := by decide
  apart := by decide

theorem words_lossless_lettered :
    (words "XMLP__a1B".toList).flatten = "XMLPa1B".toList ∧
      snakeCase (pascalCase SnakeName.lettered.chars) = "a_b2c_d".toList ∧
      SnakeName.mk ("a_b2c_d".toList.splitOn '_') (by decide) (by decide) = .lettered := by
  obtain ⟨-, hjoined, hback, hapart⟩ := words_lossless
  have hclean : "XMLP__a1B".toList.all (fun c => isWordLetter c || c == '_') = true := by decide
  have hletters : (words "XMLP__a1B".toList).flatten = "XMLP__a1B".toList.filter (· ≠ '_') :=
    (hjoined _ fun c hc => by simpa using List.all_eq_true.mp hclean c hc).1
  exact ⟨hletters.trans (by decide), (hback .lettered).1.trans (by decide),
    hapart _ _ (.inl (by decide))⟩

/-- The last capital begins the next word; of two single letters one word is made. -/
example : words "HTMLPage".toList = ["HTML".toList, "Page".toList] ∧
    snakeCase (pascalCase "a_b".toList) = "ab".toList := by decide

end ViewModel.Text
