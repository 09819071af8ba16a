import ViewModel.Proofs.Text.Capitals

/-!
Splitting an identifier into words. A pattern with alternatives, longest rows first, finds the same
words from left to right between the underscores; together they are the letters and digits.
-/

namespace ViewModel.Text

/-! Patterns. -/

/-- Patterns over classes of characters. `many` takes a row of at least one, and `ahead` takes
nothing but looks at what follows. -/
inductive Pattern
  | one (p : Char → Bool)
  | many (p : Char → Bool)
  | optional (p : Char → Bool)
  | ahead (a : Pattern)
  | done
  | seq (a b : Pattern)
  | either (a b : Pattern)

/-- What a row of characters of a class can leave, the longest row first. -/
def rowRests (p : Char → Bool) : List Char → List (List Char)
  | [] => []
  | c :: rest => if p c then rowRests p rest ++ [rest] else []

namespace Pattern

/-- What a match at the start of a text can leave, in the order in which matches are tried. A text
is done at its end and before a line end that is its last character. -/
def rests : Pattern → List Char → List (List Char)
  | one _, [] => []
  | one p, c :: rest => if p c then [rest] else []
  | many p, cs => rowRests p cs
  | optional _, [] => [[]]
  | optional p, c :: rest => if p c then [rest, c :: rest] else [c :: rest]
  | ahead a, cs => if (a.rests cs).isEmpty then [] else [cs]
  | done, cs => if cs = [] ∨ cs = ['\n'] then [cs] else []
  | seq a b, cs => (a.rests cs).flatMap b.rests
  | either a b, cs => a.rests cs ++ b.rests cs

/-- The matches from left to right. The first match that is tried with success counts; where there
is none, or an empty one, a character is passed over. -/
def findAll (a : Pattern) (cs : List Char) : List (List Char) :=
  match cs with
  | [] => []
  | c :: rest =>
      match (a.rests (c :: rest)).head? with
      | none => a.findAll rest
      | some after =>
          if after.length ≤ rest.length then
            (c :: rest).take (rest.length + 1 - after.length) :: a.findAll after
          else a.findAll rest
termination_by cs.length
decreasing_by all_goals (simp_wf; try omega)

end Pattern

/-- Capitals that another word or the end follows; or small letters and digits, perhaps with a
capital before them; or capitals. -/
def wordPattern : Pattern :=
  .either
    (.seq (.many isUpperLetter)
      (.ahead (.either (.seq (.one isUpperLetter) (.one isLowerPart)) .done)))
    (.either (.seq (.optional isUpperLetter) (.many isLowerPart)) (.many isUpperLetter))

variable {a b cs w rest : List Char} {c d : Char}

/-! What `words` does at the start of an identifier. -/

theorem isWordLetter_of_upper (h : isUpperLetter c = true) : isWordLetter c = true := by
  simp [isWordLetter, h]

theorem isWordLetter_of_lower (h : isLowerPart c = true) : isWordLetter c = true := by
  simp [isWordLetter, h]

theorem not_lower_of_upper (h : isUpperLetter c = true) : isLowerPart c = false := by
  by_contra hlower
  simp [not_upper_of_lower (eq_true_of_ne_false hlower)] at h

theorem words_of_not (hc : isWordLetter c = false) : words (c :: cs) = words cs := by
  simp [words, hc]

theorem words_of_not_continues (hc : isWordLetter c = true) (h : continues c cs = false) :
    words (c :: cs) = [c] :: words cs := by
  simp [words, hc, h]

/-- A character that goes on belongs to the word behind it. -/
theorem words_cons (hc : isWordLetter c = true) (hgoes : continues c (w ++ rest) = true)
    (hw : words (w ++ rest) = w :: words rest) :
    words (c :: w ++ rest) = (c :: w) :: words rest := by
  rw [List.cons_append, words, hw]
  simp [hc, hgoes, consFirst]

theorem continues_of_lower (hd : isLowerPart d = true) : continues c (d :: cs) = true := by
  simp [continues, hd]

theorem head?_of_not (h : cs.head?.any isWordLetter = false) :
    cs.head?.any isUpperLetter = false ∧ cs.head?.any isLowerPart = false := by
  cases cs with
  | nil => exact ⟨rfl, rfl⟩
  | cons c cs => simpa [isWordLetter] using h

/-- A character does not go on before one that is no letter or digit. -/
theorem not_continues_of_not (h : cs.head?.any isWordLetter = false) : continues c cs = false := by
  obtain ⟨hupper, hlower⟩ := head?_of_not h
  cases cs with
  | nil => rfl
  | cons d after =>
    rw [List.head?_cons, Option.any_some] at hupper hlower
    simp [continues, hupper, hlower]

/-- A small letter or a digit goes on only before another one. -/
theorem not_continues_of_lower (hc : isLowerPart c = true)
    (h : cs.head?.any isLowerPart = false) : continues c cs = false := by
  cases cs with
  | nil => rfl
  | cons d after =>
    have hd : isLowerPart d = false := by simpa using h
    simp [continues, hd, not_upper_of_lower hc]

/-- A letter or digit and the small letters and digits behind it are a word where the last one
does not go on. -/
theorem words_append_lower (hc : isWordLetter c = true) (hw : ∀ d ∈ w, isLowerPart d = true)
    (hstop : continues (w.getLastD c) rest = false) :
    words (c :: w ++ rest) = (c :: w) :: words rest := by
  induction w generalizing c with
  | nil => exact words_of_not_continues hc hstop
  | cons d w ih =>
    obtain ⟨hd, hw⟩ := List.forall_mem_cons.mp hw
    rw [List.getLastD_cons] at hstop
    exact words_cons hc (continues_of_lower hd) (ih (isWordLetter_of_lower hd) hw hstop)

/-- No small letter or digit comes right after capitals, unless one comes right after them all. -/
theorem head?_append_upper (hw : ∀ d ∈ w, isUpperLetter d = true)
    (hrest : rest.head?.any isLowerPart = false) : (w ++ rest).head?.any isLowerPart = false := by
  cases w with
  | nil => exact hrest
  | cons d w => simpa using not_lower_of_upper (hw d List.mem_cons_self)

/-- Capitals are a word where the last one does not go on. -/
theorem words_append_upper (hw : ∀ d ∈ c :: w, isUpperLetter d = true)
    (hrest : rest.head?.any isLowerPart = false)
    (hstop : continues (w.getLastD c) rest = false) :
    words (c :: w ++ rest) = (c :: w) :: words rest := by
  induction w generalizing c with
  | nil => exact words_of_not_continues (isWordLetter_of_upper (hw c List.mem_cons_self)) hstop
  | cons d w ih =>
    obtain ⟨hc, hw⟩ := List.forall_mem_cons.mp hw
    obtain ⟨hd, hafter⟩ := List.forall_mem_cons.mp hw
    rw [List.getLastD_cons] at hstop
    have hgoes : continues c (d :: w ++ rest) = true := by
      rw [List.cons_append, continues, hc, hd, head?_append_upper hafter hrest]
      simp
    exact words_cons (isWordLetter_of_upper hc) hgoes (ih hw hstop)

theorem words_ne_nil (hc : isWordLetter c = true) : words (c :: cs) ≠ [] := by
  simp only [words, hc, Bool.not_true, Bool.false_eq_true, if_false]
  split
  · cases words cs <;> simp [consFirst]
  · simp

theorem consFirst_append {ws vs : List (List Char)} (h : ws ≠ []) :
    consFirst c (ws ++ vs) = consFirst c ws ++ vs := by
  cases ws with
  | nil => exact absurd rfl h
  | cons w ws => rfl

/-- Nothing joins two words across a character that is no letter or digit. -/
theorem words_append_separator (hc : isWordLetter c = false) :
    words (a ++ c :: b) = words a ++ words b := by
  induction a with
  | nil => exact words_of_not hc
  | cons d a ih =>
    have hsame : continues d (a ++ c :: b) = continues d a := by
      have hclass : isUpperLetter c = false ∧ isLowerPart c = false := by
        simpa [isWordLetter] using hc
      cases a with
      | nil => simp [continues, hclass]
      | cons e a => cases a <;> simp [continues, hclass]
    rw [List.cons_append, words, words, ih, hsame]
    split
    · rfl
    split
    next hgoes =>
      cases a with
      | nil => cases hgoes
      | cons e a => exact consFirst_append (words_ne_nil (isWordLetter_of_continues hgoes))
    · rfl

theorem words_intercalate (parts : List (List Char)) :
    words (['_'].intercalate parts) = parts.flatMap words := by
  induction parts with
  | nil => rfl
  | cons p parts ih =>
    cases parts with
    | nil => simp
    | cons q parts =>
      rw [List.intercalate_cons_cons, List.append_assoc, List.singleton_append,
        words_append_separator (by decide), ih]
      rfl

/-! What the pattern finds. -/

section Row

variable {p : Char → Bool}

theorem rowRests_of_not (h : cs.head?.any p = false) : rowRests p cs = [] := by
  cases cs with
  | nil => rfl
  | cons c rest =>
    have hc : p c = false := by simpa using h
    simp [rowRests, hc]

/-- A row leaves what stands behind all of it first. -/
theorem head?_rowRests (hw : ∀ d ∈ c :: w, p d = true) (hrest : rest.head?.any p = false) :
    (rowRests p (c :: w ++ rest)).head? = some rest := by
  induction w generalizing c with
  | nil =>
    have hc : p c = true := hw c List.mem_cons_self
    simp [rowRests, hc, rowRests_of_not hrest]
  | cons d w ih =>
    obtain ⟨hc, hw⟩ := List.forall_mem_cons.mp hw
    rw [List.cons_append, rowRests, if_pos hc, List.head?_append, ih hw]
    rfl

end Row

/-- Whether a row of capitals may stop before the rest. -/
def mayStop (cs : List Char) : Bool :=
  !((Pattern.either (.seq (.one isUpperLetter) (.one isLowerPart)) .done).rests cs).isEmpty

theorem mayStop_cons_cons (hc : isUpperLetter c = true) :
    mayStop (c :: d :: cs) = isLowerPart d := by
  cases hd : isLowerPart d <;> simp [mayStop, Pattern.rests, hc, hd]

theorem mayStop_capital (hc : isUpperLetter c = true) (h : cs.head?.any isLowerPart = false) :
    mayStop (c :: cs) = false := by
  cases cs with
  | nil =>
    have hline : c ≠ '\n' := by
      rintro rfl
      exact absurd hc (by decide)
    simp [mayStop, Pattern.rests, hc, hline]
  | cons d cs =>
    rw [mayStop_cons_cons hc]
    simpa using h

theorem mayStop_lower (hc : isLowerPart c = true) : mayStop (c :: cs) = false := by
  have hline : c ≠ '\n' := by
    rintro rfl
    exact absurd hc (by decide)
  simp [mayStop, Pattern.rests, not_upper_of_lower hc, hline]

theorem Pattern.rests_seq_ahead (p q : Pattern) (cs : List Char) :
    (Pattern.seq p (.ahead q)).rests cs = (p.rests cs).filter fun r => !(q.rests r).isEmpty := by
  simp only [rests]
  induction p.rests cs with
  | nil => rfl
  | cons r rs ih =>
    rw [List.flatMap_cons, List.filter_cons, ih]
    cases (q.rests r).isEmpty <;> rfl

theorem wordPattern_rests (cs : List Char) : wordPattern.rests cs =
    (rowRests isUpperLetter cs).filter mayStop ++
      (((Pattern.optional isUpperLetter).rests cs).flatMap (rowRests isLowerPart) ++
        rowRests isUpperLetter cs) :=
  congrArg (· ++ _) (Pattern.rests_seq_ahead _ _ cs)

/-- Before anything but a letter or digit a row of capitals stops at its end or nowhere. -/
theorem find?_of_end (hw : ∀ d ∈ c :: w, isUpperLetter d = true)
    (hrest : rest.head?.any isWordLetter = false) :
    (rowRests isUpperLetter (c :: w ++ rest)).find? mayStop =
      if mayStop rest then some rest else none := by
  obtain ⟨hupper, hlower⟩ := head?_of_not hrest
  induction w generalizing c with
  | nil =>
    have hc : isUpperLetter c = true := hw c List.mem_cons_self
    cases hstop : mayStop rest <;> simp [rowRests, hc, rowRests_of_not hupper, hstop]
  | cons d w ih =>
    obtain ⟨hc, hw⟩ := List.forall_mem_cons.mp hw
    obtain ⟨hd, hafter⟩ := List.forall_mem_cons.mp hw
    have hgoes : mayStop (d :: (w ++ rest)) = false :=
      mayStop_capital hd (head?_append_upper hafter hlower)
    rw [List.cons_append, rowRests, if_pos hc, List.find?_append, ih hw]
    simp [hgoes]

/-- The last capital is left to the small letter or digit that follows. -/
theorem find?_of_word (hw : ∀ d ∈ c :: w, isUpperLetter d = true) {x : Char}
    (hx : isUpperLetter x = true) (hd : isLowerPart d = true) :
    (rowRests isUpperLetter (c :: w ++ x :: d :: rest)).find? mayStop = some (x :: d :: rest) := by
  induction w generalizing c with
  | nil =>
    have hc : isUpperLetter c = true := hw c List.mem_cons_self
    have hstop : mayStop (x :: d :: rest) = true := (mayStop_cons_cons hx).trans hd
    simp [rowRests, hc, hx, not_upper_of_lower hd, mayStop_lower hd, hstop]
  | cons e w ih =>
    obtain ⟨hc, hw⟩ := List.forall_mem_cons.mp hw
    rw [List.cons_append, rowRests, if_pos hc, List.find?_append, ih hw]
    rfl

/-- The pattern finds a word at the start of an identifier that is its first one. -/
structure Starts (w after : List Char) : Prop where
  found : (wordPattern.rests (w ++ after)).head? = some after
  words : words (w ++ after) = w :: words after

theorem getLastD_of_forall {p : Char → Bool} (h : ∀ d ∈ c :: w, p d = true) :
    p (w.getLastD c) = true := h _ List.getLastD_mem_cons

theorem starts_small (hw : ∀ d ∈ c :: w, isLowerPart d = true)
    (hrest : rest.head?.any isLowerPart = false) : Starts (c :: w) rest where
  found := by
    have hc : isUpperLetter c = false := not_upper_of_lower (hw c List.mem_cons_self)
    have hfirst := head?_rowRests hw hrest
    rw [List.cons_append] at hfirst ⊢
    simp [wordPattern_rests, rowRests_of_not, Pattern.rests, hc, hfirst]
  words := by
    have hlast : isLowerPart (w.getLastD c) = true := getLastD_of_forall hw
    obtain ⟨hc, hw⟩ := List.forall_mem_cons.mp hw
    exact words_append_lower (isWordLetter_of_lower hc) hw (not_continues_of_lower hlast hrest)

theorem starts_capitalized (hc : isUpperLetter c = true) (hw : ∀ e ∈ d :: w, isLowerPart e = true)
    (hrest : rest.head?.any isLowerPart = false) : Starts (c :: d :: w) rest where
  found := by
    have hd : isLowerPart d = true := hw d List.mem_cons_self
    have hfirst := head?_rowRests hw hrest
    rw [List.cons_append] at hfirst
    have hcapital : rowRests isUpperLetter (c :: d :: (w ++ rest)) = [d :: (w ++ rest)] := by
      simp [rowRests, hc, not_upper_of_lower hd]
    simp [wordPattern_rests, Pattern.rests, hc, hcapital, mayStop_lower hd, hfirst]
  words := by
    have hlast : isLowerPart ((d :: w).getLastD c) = true := by
      rw [List.getLastD_cons]
      exact getLastD_of_forall hw
    exact words_append_lower (isWordLetter_of_upper hc) hw (not_continues_of_lower hlast hrest)

theorem starts_capitals (hw : ∀ d ∈ c :: w, isUpperLetter d = true)
    (hrest : rest.head?.any isWordLetter = false) : Starts (c :: w) rest where
  found := by
    obtain ⟨hupper, hlower⟩ := head?_of_not hrest
    obtain ⟨hc, hmore⟩ := List.forall_mem_cons.mp hw
    have hsmall : ((Pattern.optional isUpperLetter).rests (c :: w ++ rest)).flatMap
        (rowRests isLowerPart) = [] := by
      have hnext := rowRests_of_not (head?_append_upper hmore hlower)
      simp [Pattern.rests, hc, rowRests, not_lower_of_upper hc, hnext]
    rw [wordPattern_rests, hsmall, List.nil_append, List.head?_append, List.head?_filter,
      find?_of_end hw hrest, head?_rowRests hw hupper]
    cases mayStop rest <;> rfl
  words := words_append_upper hw (head?_of_not hrest).2 (not_continues_of_not hrest)

theorem starts_before_word (hw : ∀ d ∈ c :: w, isUpperLetter d = true) {x : Char}
    (hx : isUpperLetter x = true) (hd : isLowerPart d = true) :
    Starts (c :: w) (x :: d :: rest) where
  found := by
    rw [wordPattern_rests, List.head?_append, List.head?_filter, find?_of_word hw hx hd]
    rfl
  words := by
    refine words_append_upper hw (by simpa using not_lower_of_upper hx) ?_
    simp [continues, not_lower_of_upper hx, hd]

theorem exists_row (p : Char → Bool) (cs : List Char) :
    ∃ w rest, cs = w ++ rest ∧ (∀ d ∈ w, p d = true) ∧ rest.head?.any p = false := by
  refine ⟨cs.takeWhile p, cs.dropWhile p, List.takeWhile_append_dropWhile.symm,
    List.all_eq_true.mp List.all_takeWhile, ?_⟩
  induction cs with
  | nil => rfl
  | cons c cs ih => cases hc : p c <;> simp [hc, ih]

theorem exists_starts (hc : isWordLetter c = true) (cs : List Char) :
    ∃ w after, c :: cs = c :: w ++ after ∧ Starts (c :: w) after := by
  cases hupper : isUpperLetter c with
  | false =>
    have hlower : isLowerPart c = true := by simpa [isWordLetter, hupper] using hc
    obtain ⟨w, rest, rfl, hw, hrest⟩ := exists_row isLowerPart cs
    exact ⟨w, rest, rfl, starts_small (List.forall_mem_cons.mpr ⟨hlower, hw⟩) hrest⟩
  | true =>
    obtain ⟨u, rest, rfl, hu, hrest⟩ := exists_row isUpperLetter cs
    have hrow : ∀ d ∈ c :: u, isUpperLetter d = true := List.forall_mem_cons.mpr ⟨hupper, hu⟩
    -- What stands behind the capitals tells which alternative matches, and with a small letter
    -- there, whether the capital is the only one.
    cases rest with
    | nil => exact ⟨u, [], rfl, starts_capitals hrow rfl⟩
    | cons d rest =>
      have hd : isUpperLetter d = false := by simpa using hrest
      cases hlower : isLowerPart d with
      | false => exact ⟨u, d :: rest, rfl, starts_capitals hrow (by simp [isWordLetter, hd, hlower])⟩
      | true =>
        rcases List.eq_nil_or_concat' u with rfl | ⟨v, x, rfl⟩
        · obtain ⟨w, after, rfl, hw, hafter⟩ := exists_row isLowerPart rest
          exact ⟨d :: w, after, rfl,
            starts_capitalized hupper (List.forall_mem_cons.mpr ⟨hlower, hw⟩) hafter⟩
        · have hx : isUpperLetter x = true := hu x (by simp)
          have hv : ∀ e ∈ c :: v, isUpperLetter e = true := fun e he =>
            hrow e (List.cons_subset_cons c (List.subset_append_left v [x]) he)
          exact ⟨v, x :: d :: rest, by simp, starts_before_word hv hx hlower⟩

theorem rests_of_not (hc : isWordLetter c = false) : wordPattern.rests (c :: cs) = [] := by
  have hclass : isUpperLetter c = false ∧ isLowerPart c = false := by
    simpa [isWordLetter] using hc
  rw [wordPattern_rests]
  simp [rowRests, Pattern.rests, hclass]

theorem findAll_eq_words (cs : List Char) : wordPattern.findAll cs = words cs := by
  induction hlength : cs.length using Nat.strongRecOn generalizing cs with
  | ind n ih =>
  cases cs with
  | nil => rw [Pattern.findAll]; rfl
  | cons c cs =>
    cases hc : isWordLetter c with
    | false =>
      rw [Pattern.findAll, rests_of_not hc, words_of_not hc]
      exact ih cs.length (by simp [← hlength]) cs rfl
    | true =>
      obtain ⟨w, after, hcs, hstarts⟩ := exists_starts hc cs
      obtain rfl : cs = w ++ after := (List.cons.inj hcs).2
      have hshorter : after.length ≤ (w ++ after).length := by simp
      have htake : (c :: w ++ after).take ((w ++ after).length + 1 - after.length) = c :: w := by
        rw [List.take_left' (by simp; omega)]
      have hafter := ih after.length (by simp at hlength; omega) after rfl
      have hfound := hstarts.found
      rw [List.cons_append] at hfound
      rw [Pattern.findAll, hfound, hcs, hstarts.words, ← hafter]
      simp only [if_pos hshorter, htake]

/-- The pattern finds the words, from left to right in the parts between underscores. -/
theorem words_eq_findAll (cs : List Char) :
    words cs = (cs.splitOn '_').flatMap wordPattern.findAll := by
  calc
    words cs = words (['_'].intercalate (cs.splitOn '_')) := by rw [List.intercalate_splitOn]
    _ = (cs.splitOn '_').flatMap words := words_intercalate _
    _ = (cs.splitOn '_').flatMap wordPattern.findAll := by rw [funext findAll_eq_words]

end ViewModel.Text
