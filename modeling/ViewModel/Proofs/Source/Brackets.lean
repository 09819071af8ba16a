import ViewModel.Proofs.Source.Scanning

/-!
The tokens of names in the brackets of other names, as in `List[Optional[Tag]]`. The scanner keeps
at most 200 brackets open, so it comes to the end of such a text if no more are nested.
-/

namespace ViewModel.Source

/-- The text of a name in the brackets of others. -/
def nestedText (core : String) : List String → List Char
  | [] => core.toList
  | w :: outer => w.toList ++ '[' :: (nestedText core outer ++ [']'])

/-- The tokens of a name in the brackets of others. -/
def nestedTokens (core : String) : List String → List Token
  | [] => [.word core]
  | w :: outer => .word w :: .symbol "[" :: (nestedTokens core outer ++ [.symbol "]"])

/-- The tokens up to the first bracket that is one too many, where so many are open. -/
def cutTokens (core : String) : Nat → List String → List Token
  | _, [] => [.word core]
  | k, w :: outer =>
      .word w :: if 200 ≤ k then [] else .symbol "[" :: cutTokens core (k + 1) outer

namespace Scanner

variable {s : Scanner} {r : List Char} {core : String} {outer : List String}

theorem nestedText_append (w : String) (outer : List String) (r : List Char) :
    nestedText core (w :: outer) ++ r =
      w.toList ++ '[' :: (nestedText core outer ++ ']' :: r) := by
  simp [nestedText]

theorem Scans.bracketed {w : String} (hw : isIdentifier w.toList = true)
    (hfew : s.brackets.length < 200) :
    Scans s (nestedText core (w :: outer) ++ r) (s.opened '[') (nestedText core outer ++ ']' :: r)
      [.word w, .symbol "["] := by
  rw [nestedText_append]
  have hword : Scans s (w.toList ++ '[' :: (nestedText core outer ++ ']' :: r)) s _ [.word w] :=
    .word hw rfl
  exact hword.trans (.opening (by decide) hfew)

variable (hcore : isIdentifier core.toList = true)
  (houter : ∀ w ∈ outer, isIdentifier w.toList = true)

section Nested

include hcore houter

/-- Names in at most 200 brackets are scanned to the end. -/
theorem Scans.nested (hdepth : s.brackets.length + outer.length ≤ 200) (hr : EndsWord r) :
    Scans s (nestedText core outer ++ r) s r (nestedTokens core outer) := by
  induction outer generalizing s r with
  | nil => exact .word hcore hr
  | cons w outer ih =>
    obtain ⟨hw, houter⟩ := List.forall_mem_cons.mp houter
    rw [List.length_cons] at hdepth
    have hinner : Scans (s.opened '[') (nestedText core outer ++ ']' :: r) (s.opened '[') _ _ :=
      ih houter (by rw [length_opened]; omega) rfl
    exact (Scans.bracketed hw (by omega)).trans (hinner.trans (.closing (by decide)))

theorem exists_start_nestedText : ∃ c rest, nestedText core outer = c :: rest ∧
    c ∉ special := by
  cases outer with
  | nil =>
    obtain ⟨c, rest, hcs, -, hparts⟩ := word_of_isIdentifier hcore
    exact ⟨c, rest, hcs, not_special_of_isWordPart (hparts c (by simp [hcs]))⟩
  | cons w outer =>
    obtain ⟨c, rest, hcs, -, hparts⟩ := word_of_isIdentifier (houter w List.mem_cons_self)
    exact ⟨c, _, by rw [nestedText, hcs]; rfl,
      not_special_of_isWordPart (hparts c (by simp [hcs]))⟩

theorem nestedText_chars :
    ∀ c ∈ nestedText core outer, isWordPart c = true ∨ c = '[' ∨ c = ']' := by
  induction outer with
  | nil =>
    obtain ⟨-, -, -, -, hparts⟩ := word_of_isIdentifier hcore
    exact fun c hc => .inl (hparts c hc)
  | cons w outer ih =>
    obtain ⟨hw, houter⟩ := List.forall_mem_cons.mp houter
    obtain ⟨-, -, -, -, hparts⟩ := word_of_isIdentifier hw
    simp only [nestedText, List.forall_mem_append, List.forall_mem_cons]
    exact ⟨fun c hc => .inl (hparts c hc), by simp, ih houter, by simp, by simp⟩

/-- There are no line ends in it. -/
theorem not_return_nestedText : '\r' ∉ nestedText core outer := by
  intro hreturn
  rcases nestedText_chars hcore houter _ hreturn with hpart | hbracket | hbracket
  · exact absurd hpart (by decide)
  · exact absurd hbracket (by decide)
  · exact absurd hbracket (by decide)

end Nested

/-- One bracket too many ends the tokens. -/
theorem run_full {fuel : Nat} (hfull : 200 ≤ s.brackets.length) :
    (run (fuel + 1) false s ('[' :: r)).lexemes = [] := by
  rw [run_token (by decide), token_bracket (by decide), track?_open (by decide), if_pos hfull]

include houter

/-- With more than 200 brackets the scanner stops at one. -/
theorem Scans.cut (hopen : s.brackets.length ≤ 200)
    (hdepth : 200 < s.brackets.length + outer.length) :
    ∃ s' r', Scans s (nestedText core outer ++ r) s' r'
        (cutTokens core s.brackets.length outer) ∧
      ∀ fuel, (Scanner.run (fuel + 1) false s' r').lexemes = [] := by
  induction outer generalizing s r with
  | nil =>
    rw [List.length_nil] at hdepth
    omega
  | cons w outer ih =>
    obtain ⟨hw, houter⟩ := List.forall_mem_cons.mp houter
    rw [List.length_cons] at hdepth
    rw [cutTokens]
    by_cases hfull : 200 ≤ s.brackets.length
    · rw [if_pos hfull, nestedText_append]
      exact ⟨s, _, .word hw rfl, fun _ => run_full hfull⟩
    · have hinner := ih houter (s := s.opened '[') (r := ']' :: r)
      obtain ⟨s', r', hcut, hrun⟩ := hinner (by rw [length_opened]; omega)
        (by rw [length_opened]; omega)
      rw [if_neg hfull]
      exact ⟨s', r', (Scans.bracketed hw (by omega)).trans hcut, hrun⟩

end Scanner

end ViewModel.Source
