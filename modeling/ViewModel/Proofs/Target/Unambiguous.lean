import ViewModel.Proofs.Target.Spelling

/-!
A printed expression has one reading. Its reader splits the text into words and sees nothing else,
so a constant is the word that it is printed as, whether or not the target has a literal for it.
-/

namespace ViewModel

/-! Constants in another form: what is said of their places stays. -/

def Phrase.recode (f : Scalar → Scalar) : Phrase → Phrase
  | literal s => literal (f s)
  | path accesses => path accesses
  | negated operand => negated (operand.recode f)
  | joined op left right => joined op (left.recode f) (right.recode f)
  | chained op left right => chained op (left.recode f) (right.recode f)
  | conditional first second third =>
      conditional (first.recode f) (second.recode f) (third.recode f)

def Expr.recode (f : Scalar → Scalar) : Expr → Expr
  | hole => hole
  | literal s => literal (f s)
  | member path nullSafe => member path nullSafe
  | nullCheck e negated => nullCheck (e.recode f) negated
  | not e => not (e.recode f)
  | binary op left right => binary op (left.recode f) (right.recode f)
  | ternary c t f' => ternary (c.recode f) (t.recode f) (f'.recode f)

variable {d : Dialect} {f : Scalar → Scalar}

theorem Piece.recode_comp (f g : Scalar → Scalar) :
    Piece.recode g ∘ Piece.recode f = Piece.recode (g ∘ f) := by
  funext p
  cases p <;> rfl

theorem Phrase.recode_recode (f g : Scalar → Scalar) (s : Phrase) :
    (s.recode f).recode g = s.recode (g ∘ f) := by
  induction s with
  | literal | path => rfl
  | negated _ ih => simp [recode, ih]
  | joined _ _ _ ihl ihr | chained _ _ _ ihl ihr => simp [recode, ihl, ihr]
  | conditional _ _ _ ih ih' ih'' => simp [recode, ih, ih', ih'']

@[simp] theorem Expr.isComplete_recode (e : Expr) : (e.recode f).isComplete = e.isComplete := by
  induction e with
  | hole | literal | member => rfl
  | nullCheck _ _ ih | not _ ih => exact ih
  | binary _ _ _ ihl ihr => simp [recode, isComplete, ihl, ihr]
  | ternary _ _ _ ihc iht ihf => simp [recode, isComplete, ihc, iht, ihf]

theorem Expr.literals_recode (e : Expr) : (e.recode f).literals = e.literals.map f := by
  induction e with
  | hole | literal | member => rfl
  | nullCheck _ _ ih | not _ ih => exact ih
  | binary _ _ _ ihl ihr => simp [recode, literals, ihl, ihr]
  | ternary _ _ _ ihc iht ihf => simp [recode, literals, ihc, iht, ihf]

namespace Grammar

variable {g : Grammar} {n : Nat} {ps : List Piece} {s : Phrase}

theorem join_recode (op : String) (k n : Nat) (s t : Phrase) :
    (g.join op k n s t).recode f = g.join op k n (s.recode f) (t.recode f) := by
  unfold join
  split <;> rfl

/-- A reading does not depend on what the constants are. -/
theorem Reads.recode (h : Reads g n ps s) (hf : ∀ s, s.isFinite = true → (f s).isFinite = true) :
    Reads g n (ps.map (Piece.recode f)) (s.recode f) := by
  induction h with
  | literal h => exact .literal (hf _ h)
  | path accesses =>
    have h := Reads.path (g := g) accesses
    simpa [Piece.recode, Phrase.recode, Function.comp_def] using h
  | enclosed _ ih => simpa [Piece.recode] using Reads.enclosed ih
  | negated hn _ ih => exact .negated hn ih
  | joined hop hn _ hn' _ ihl ihr =>
    rw [join_recode]
    simpa [Piece.recode] using Reads.joined hop hn ihl hn' ihr
  | conditional hn _ hn' _ _ ih ih' ih'' =>
    simpa [Piece.recode, Phrase.recode] using Reads.conditional hn ih hn' ih' ih''

end Grammar

/-- What a dialect adds to the constants of an expression is null and no other constant. -/
structure Reading.Plain (r : Reading d) : Prop where
  member_pieces : ∀ {f : Scalar → Scalar}, f .null = .null → ∀ path nullSafe,
    (d.member path nullSafe).map (Piece.recode f) = d.member path nullSafe
  member_phrase : ∀ {f : Scalar → Scalar}, f .null = .null → ∀ path nullSafe,
    (r.member path nullSafe).recode f = r.member path nullSafe
  conditional_pieces : ∀ (f : Scalar → Scalar) ps qs rs,
    (d.conditional ps qs rs).map (Piece.recode f) =
      d.conditional (ps.map (Piece.recode f)) (qs.map (Piece.recode f)) (rs.map (Piece.recode f))
  conditional_phrase : ∀ (f : Scalar → Scalar) s t u,
    (r.conditional s t u).recode f = r.conditional (s.recode f) (t.recode f) (u.recode f)

namespace Reading

variable {r : Reading d}

theorem enclose_recode (least level : Nat) (ps : List Piece) :
    (Dialect.enclose least level ps).map (Piece.recode f) =
      Dialect.enclose least level (ps.map (Piece.recode f)) := by
  unfold Dialect.enclose
  split <;> simp [Piece.recode]

theorem levelOf_recode (e : Expr) : d.levelOf (e.recode f) = d.levelOf e := by
  cases e <;> rfl

theorem pieces_recode (hr : r.Plain) (hf : f .null = .null) (e : Expr) :
    d.pieces (e.recode f) = (d.pieces e).map (Piece.recode f) := by
  induction e with
  | hole | literal => rfl
  | member path nullSafe => exact (hr.member_pieces hf path nullSafe).symm
  | nullCheck e negated ih =>
    simp [Expr.recode, Dialect.pieces, levelOf_recode, ih, enclose_recode, Piece.recode, hf]
  | not e ih => simp [Expr.recode, Dialect.pieces, levelOf_recode, ih, enclose_recode, Piece.recode]
  | binary op left right ihl ihr =>
    simp [Expr.recode, Dialect.pieces, levelOf_recode, ihl, ihr, enclose_recode, Piece.recode]
  | ternary c t f' ihc iht ihf =>
    simp [Expr.recode, Dialect.pieces, levelOf_recode, ihc, iht, ihf, enclose_recode,
      hr.conditional_pieces]

theorem phrase_recode (hr : r.Plain) (hf : f .null = .null) (e : Expr) :
    r.phrase (e.recode f) = (r.phrase e).recode f := by
  induction e with
  | hole => simp [Expr.recode, phrase, Phrase.recode, hf]
  | literal => rfl
  | member path nullSafe => exact (hr.member_phrase hf path nullSafe).symm
  | nullCheck e negated ih => simp [Expr.recode, phrase, Phrase.recode, ih, hf]
  | not e ih => simp [Expr.recode, phrase, Phrase.recode, ih]
  | binary op left right ihl ihr => simp [Expr.recode, phrase, Phrase.recode, ihl, ihr]
  | ternary c t f' ihc iht ihf =>
    simp [Expr.recode, phrase, ihc, iht, ihf, hr.conditional_phrase]

end Reading

/-- A constant as the word that it is printed as. -/
def Dialect.word (d : Dialect) (s : Scalar) : Scalar := .text (d.literal s)

/-- The words of a printed expression. -/
def Dialect.words (d : Dialect) (e : Expr) : List Piece := (d.pieces e).map (Piece.recode d.word)

/-- An expression is printed. Its text is split into its words if its names are names in the text,
and the words are read in one way: as the expression has it. -/
def Reading.Unambiguous (r : Reading d) (e : Expr) : Prop :=
  d.print e = .ok (Piece.textOf d (d.pieces e)) ∧
    (e.Named →
      r.words? (fun w => some (.text w)) (Piece.textOf d (d.pieces e)) = some (d.words e)) ∧
    ∀ s, (∃ n, r.grammar.Reads n (d.words e) s) ↔ s = (r.phrase e).recode d.word

/-- The words read as the expression. Null is a constant of the expression or comes from the
dialect, so it becomes a word after all the others. -/
theorem Reading.words_read {r : Reading d} (hr : r.Plain) {e : Expr}
    (hcomplete : e.isComplete = true) :
    ∃ n, r.grammar.Reads n (d.words e) ((r.phrase e).recode d.word) := by
  let others (s : Scalar) : Scalar := if s = .null then .null else d.word s
  let last (s : Scalar) : Scalar := if s = .null then d.word .null else s
  have hothers (s : Scalar) : (others s).isFinite = true := by
    simp only [others]
    split <;> rfl
  have hnull : others .null = .null := if_pos rfl
  have hlast : last ∘ others = d.word := by
    funext s
    by_cases hs : s = .null <;> simp [last, others, hs, Dialect.word]
  have hread := r.reads (e := e.recode others) (by simpa using hcomplete) fun s hs => by
    rw [Expr.literals_recode] at hs
    obtain ⟨t, -, rfl⟩ := List.mem_map.mp hs
    exact hothers t
  have hwords := hread.recode (f := last) fun s hs => by
    simp only [last]
    split
    · rfl
    · exact hs
  rw [Reading.pieces_recode hr hnull, Reading.phrase_recode hr hnull, List.map_map,
    Piece.recode_comp, Phrase.recode_recode, hlast] at hwords
  exact ⟨_, hwords⟩

theorem Reading.unambiguous {r : Reading d} (hr : r.Plain) (hspells : r.lexicon.Spells d)
    {e : Expr} (hcomplete : e.isComplete = true) : r.Unambiguous e := by
  obtain ⟨n, hread⟩ := Reading.words_read hr hcomplete
  refine ⟨if_pos hcomplete, fun hnamed => ?_, fun s => ⟨?_, ?_⟩⟩
  · exact Reading.words?_textOf hspells hnamed hread fun _ _ => rfl
  · rintro ⟨m, h⟩
    exact h.unique hread
  · rintro rfl
    exact ⟨n, hread⟩

section Brace

theorem braceMember_recode (name : String → String) (path : List String) (nullSafe : List Int) :
    (Dialect.braceMember name path nullSafe).map (Piece.recode f) =
      Dialect.braceMember name path nullSafe := by
  simp [Dialect.braceMember, accesses_eq, Piece.recode, Function.comp_def]

theorem csharpReading_plain : csharpReading.Plain where
  member_pieces _ := braceMember_recode _
  member_phrase _ _ _ := rfl
  conditional_pieces f ps qs rs := by
    simp [Dialect.csharp, Dialect.braceConditional, Piece.recode]
  conditional_phrase _ _ _ _ := rfl

theorem typescriptReading_plain : typescriptReading.Plain where
  member_pieces _ := braceMember_recode _
  member_phrase _ _ _ := rfl
  conditional_pieces f ps qs rs := by
    simp [Dialect.typescript, Dialect.csharp, Dialect.braceConditional, Piece.recode]
  conditional_phrase _ _ _ _ := rfl

end Brace

section Python

theorem plainMember_recode (path : List String) :
    (Dialect.plainMember path).map (Piece.recode f) = Dialect.plainMember path := by
  simp [Dialect.plainMember, Piece.recode, Function.comp_def]

theorem guard_recode (hf : f .null = .null) (receiver : List String) :
    (Dialect.guard receiver).map (Piece.recode f) = Dialect.guard receiver := by
  simp [Dialect.guard, plainMember_recode, Piece.recode, hf]

theorem guards_recode (hf : f .null = .null) (first : List String) (more : List (List String)) :
    (Dialect.guards first more).map (Piece.recode f) = Dialect.guards first more := by
  simp [Dialect.guards, guard_recode hf, List.map_flatMap, Piece.recode]

theorem guardsPhrase_recode (hf : f .null = .null) (first : List String)
    (more : List (List String)) :
    (guardsPhrase first more).recode f = guardsPhrase first more := by
  have hguard (receiver : List String) :
      (guardPhrase receiver).recode f = guardPhrase receiver := by
    simp [guardPhrase, plainPath, Phrase.recode, hf]
  have hmore (s : Phrase) (hs : s.recode f = s) :
      (more.foldl (fun sofar receiver => .joined "and" sofar (guardPhrase receiver)) s).recode f =
        more.foldl (fun sofar receiver => .joined "and" sofar (guardPhrase receiver)) s := by
    induction more generalizing s with
    | nil => exact hs
    | cons receiver more ih => exact ih _ (by simp [Phrase.recode, hs, hguard])
  exact hmore _ (hguard first)

theorem pythonReading_plain : pythonReading.Plain where
  member_pieces {f} hf path nullSafe := by
    show (Dialect.pythonMember path nullSafe).map (Piece.recode f) =
      Dialect.pythonMember path nullSafe
    unfold Dialect.pythonMember
    split
    · exact plainMember_recode path
    · simp [plainMember_recode, guards_recode hf, Piece.recode, hf]
  member_phrase {f} hf path nullSafe := by
    show (guardedPath path nullSafe).recode f = guardedPath path nullSafe
    unfold guardedPath
    split
    · rfl
    · simp [Phrase.recode, plainPath, guardsPhrase_recode hf, hf]
  conditional_pieces f ps qs rs := by simp [Dialect.python, Piece.recode]
  conditional_phrase _ _ _ _ := rfl

end Python

/-- Every expression is printed for each target, and what is printed has one reading: its text is
that of words which are read in one way, and falls into them again. -/
theorem Expr.printed_unambiguous (e : Expr) (hcomplete : e.isComplete = true) :
    csharpReading.Unambiguous e ∧ typescriptReading.Unambiguous e ∧
      pythonReading.Unambiguous e :=
  ⟨Reading.unambiguous csharpReading_plain csharp_spells hcomplete,
    Reading.unambiguous typescriptReading_plain typescript_spells hcomplete,
    Reading.unambiguous pythonReading_plain python_spells hcomplete⟩

/-- Comparisons of comparisons, and of a negation, on both sides of a conditional. -/
theorem Expr.printed_unambiguous_nested :
    let same := Expr.binary .equals (.member ["a", "b"] [1]) (.not (.literal (.bool true)))
    let e := Expr.ternary (.binary .notEquals same same) same (.nullCheck same true)
    csharpReading.Unambiguous e ∧ typescriptReading.Unambiguous e ∧ pythonReading.Unambiguous e :=
  Expr.printed_unambiguous _ rfl

end ViewModel
