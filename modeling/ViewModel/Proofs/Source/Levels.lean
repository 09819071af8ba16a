import ViewModel.Source.Statement

/-!
Reading expressions level by level. What the closest operators leave behind the farther ones find,
so up to a token that ends a level the reader of that level reads what the one below it reads.
-/

namespace ViewModel.Source

namespace Reader

variable {α β : Type} {ls ls' rest : List Lexeme} {a : α} {e : Stop} {t : Token}

theorem bind_ok {p : Reader α} {f : α → Reader β} (h : p ls = .ok (a, ls')) :
    (p >>= f) ls = f a ls' := by
  simp only [bind, StateT.bind, h, Except.bind]

theorem bind_error {p : Reader α} {f : α → Reader β} (h : p ls = .error e) :
    (p >>= f) ls = .error e := by
  simp only [bind, StateT.bind, h, Except.bind]

theorem next?_eq (ls : List Lexeme) : next? ls = .ok (token? ls, ls) := rfl

theorem get_eq (ls : List Lexeme) : (get : Reader (List Lexeme)) ls = .ok (ls, ls) := rfl

theorem line_eq (ls : List Lexeme) :
    line ls = .ok (((ls.head?.map Lexeme.line).getD 0), ls) := rfl

theorem atToken_eq (t : Token) (ls : List Lexeme) :
    atToken t ls = .ok (token? ls == some t, ls) := rfl

theorem atToken_of_ne (h : token? ls ≠ some t) : atToken t ls = .ok (false, ls) := by
  rw [atToken_eq, beq_eq_false_iff_ne.mpr h]

theorem optional_of_ne (h : token? ls ≠ some t) : optional t ls = .ok (false, ls) := by
  rw [optional, bind_ok (atToken_of_ne h)]
  rfl

theorem optional_of_eq (h : token? ls = some t) : optional t ls = .ok (true, ls.tail) := by
  rw [optional, bind_ok (atToken_eq t ls), h, beq_self_eq_true]
  rfl

theorem token_of_eq (h : token? ls = some t) : token t ls = .ok ((), ls.tail) := by
  rw [token, bind_ok (atToken_eq t ls), h, beq_self_eq_true]
  rfl

/-- A step that leads nowhere ends the loop. -/
theorem iterate_stop {step : α → Reader (Option α)} (h : step a ls = .ok (none, ls)) (n : Nat) :
    iterate step n a ls = .ok (a, ls) := by
  cases n with
  | zero => rfl
  | succ n =>
    rw [iterate, bind_ok h]
    rfl

theorem loop_stop {step : α → Reader (Option α)} (h : step a ls = .ok (none, ls)) :
    loop step a ls = .ok (a, ls) :=
  iterate_stop h _

/-- Tokens that are part of no operand, each with the least level whose operators leave it. -/
def enders : List (Token × Nat) :=
  [(.finish, 0), (.symbol ")", 0), (.symbol "]", 0), (.word "if", 2), (.word "else", 2),
    (.word "or", 3), (.word "and", 4), (.word "is", 6), (.symbol "==", 6), (.symbol "!=", 6),
    (.symbol "<", 6), (.symbol "<=", 6), (.symbol ">", 6), (.symbol ">=", 6)]

/-- Nothing of the level `k` goes on here: the tokens end, or the next one ends the level. -/
def Ends (k : Nat) (rest : List Lexeme) : Prop :=
  ∀ t ∈ token? rest, ∃ e ∈ enders, e.1 = t ∧ e.2 ≤ k

variable {k k' : Nat}

theorem Ends.mono (h : Ends k rest) (hk : k ≤ k') : Ends k' rest := fun t ht =>
  let ⟨e, he, heq, hlevel⟩ := h t ht
  ⟨e, he, heq, Nat.le_trans hlevel hk⟩

/-- Whatever ends some level ends that of operands. -/
theorem Ends.operand (h : Ends k rest) : Ends 6 rest := fun t ht =>
  have htable : ∀ e ∈ enders, e.2 ≤ 6 := by decide
  let ⟨e, he, heq, _⟩ := h t ht
  ⟨e, he, heq, htable e he⟩

theorem ends_nil : Ends k [] := fun _ h => nomatch h

theorem ends_of_token {l : Lexeme} (ht : (t, k) ∈ enders) (hl : l.token = t) :
    Ends k (l :: rest) := by
  rintro _ ⟨⟩
  exact ⟨_, ht, hl.symm, Nat.le_refl _⟩

/-- A property of the tokens that end a level, and of the end. -/
theorem Ends.token {P : Option Token → Prop} (h : Ends k rest) (hnone : P none)
    (hsome : ∀ e ∈ enders, e.2 ≤ k → P (some e.1)) : P (token? rest) := by
  cases ht : token? rest with
  | none => exact hnone
  | some t =>
    obtain ⟨e, he, rfl, hlevel⟩ := h t ht
    exact hsome e he hlevel

theorem Ends.ne (h : Ends k rest) (ht : ∀ e ∈ enders, e.2 ≤ k → e.1 ≠ t) :
    token? rest ≠ some t :=
  h.token (P := fun u => u ≠ some t) (by simp) fun e he hlevel heq =>
    ht e he hlevel (Option.some.inj heq)

/-- A name stands here. -/
def AtName (ls : List Lexeme) : Prop :=
  ∃ n, token? ls = some (.word n) ∧ isReserved n = false

theorem AtName.ne_word (h : AtName ls) {s : String} (hs : isReserved s = true) :
    token? ls ≠ some (.word s) := by
  obtain ⟨n, hn, hreserved⟩ := h
  rintro heq
  cases Option.some.inj (hn.symm.trans heq)
  rw [hs] at hreserved
  cases hreserved

theorem name_of_atName {l : Lexeme} {w : String} (hl : l.token = .word w)
    (hw : isReserved w = false) : name (l :: rest) = .ok (Text.normalize w, rest) := by
  have hname : name? (token? (l :: rest)) = some w := by simp [token?, hl, name?, hw]
  rw [name, bind_ok (next?_eq _), hname]
  rfl

/-- No comma follows where a level ends. -/
theorem moreItems_ends {starts : Option Token → Bool} {item : Reader α} {items : List α}
    (hrest : Ends k rest) (n : Nat) :
    moreItems starts item n items rest = .ok ((items, false), rest) := by
  have hcomma : optionalSymbol "," rest = .ok (false, rest) :=
    optional_of_ne (hrest.ne fun e he _ => by
      have htable : ∀ e ∈ enders, e.1 ≠ .symbol "," := by decide
      exact htable e he)
  cases n with
  | zero => rfl
  | succ n =>
    rw [moreItems, bind_ok hcomma]
    rfl

theorem commaList_of_ends {starts : Option Token → Bool} {item : Reader α}
    (h : item ls = .ok (a, rest)) (hrest : Ends k rest) :
    commaList starts item ls = .ok (([a], false), rest) := by
  rw [commaList, bind_ok h, bind_ok (get_eq _)]
  exact moreItems_ends hrest _

end Reader

namespace Expression

open Reader

variable {self : Goal → Reader Term} {ls rest : List Lexeme} {t : Term} {e : Stop} {k k' : Nat}

/-- What the inner reader reads up to a token that ends the level is all that the outer one reads,
and it fails where the inner one does. -/
structure Passes (k : Nat) (outer inner : Reader Term) (ls : List Lexeme) : Prop where
  ok : ∀ {t rest}, inner ls = .ok (t, rest) → Ends k rest → outer ls = .ok (t, rest)
  error : ∀ {e}, inner ls = .error e → outer ls = .error e

theorem Passes.refl (p : Reader Term) (ls : List Lexeme) : Passes k p p ls := ⟨fun h _ => h, id⟩

theorem Passes.mono {p q : Reader Term} (h : Passes k' p q ls) (hk : k ≤ k') : Passes k p q ls :=
  ⟨fun hq hrest => h.ok hq (hrest.mono hk), h.error⟩

theorem Passes.trans {p q r : Reader Term} (hpq : Passes k p q ls) (hqr : Passes k q r ls) :
    Passes k p r ls :=
  ⟨fun h hrest => hpq.ok (hqr.ok h hrest) hrest, fun h => hpq.error (hqr.error h)⟩

theorem Passes.of_eq {p q : Reader Term} (h : p ls = q ls) : Passes k p q ls :=
  ⟨fun hq _ => h.trans hq, fun hq => h.trans hq⟩

/-- What reads an operand first and then goes on only where something follows. -/
theorem passes_loop {step : Term → Reader (Option Term)} {operand : Reader Term}
    (hstep : ∀ t rest, Ends k rest → step t rest = .ok (none, rest)) (ls : List Lexeme) :
    Passes k (operand >>= loop step) operand ls where
  ok h hrest := by
    rw [bind_ok h]
    exact loop_stop (hstep _ _ hrest)
  error h := bind_error h

/-- The closest level, at which every operator ends what is read. -/
def operandLevel : Nat := 6

theorem leftJoined_passes {ops : List String} (hops : ops ∈ arithmeticLevels)
    (operand : Reader Term) (ls : List Lexeme) :
    Passes operandLevel (leftJoined ops operand) operand ls := by
  refine passes_loop (fun t rest hrest => ?_) ls
  have hnone : ∀ s, token? rest = some (.symbol s) → ops.contains s = false := by
    have htable : ∀ ops ∈ arithmeticLevels, ∀ e ∈ enders, ∀ s ∈ ops, e.1 ≠ .symbol s := by decide
    intro s hs
    refine Bool.eq_false_iff.mpr fun hmem => ?_
    exact hrest.ne (fun e he _ => htable ops hops e he s (by simpa using hmem)) hs
  rw [bind_ok (next?_eq _)]
  show _ = (pure none : Reader (Option Term)) rest
  refine congrFun ?_ rest
  split
  next s hs => rw [hnone s hs, if_neg Bool.false_ne_true]
  next => rfl

theorem bitwiseOr_passes (self : Goal → Reader Term) (ls : List Lexeme) :
    Passes operandLevel (bitwiseOr self) (self .factor) ls := by
  have hall : ∀ (levels : List (List String)) (operand : Reader Term),
      (∀ ops ∈ levels, ops ∈ arithmeticLevels) → Passes operandLevel
        (levels.foldl (fun operand ops => leftJoined ops operand) operand) operand ls := by
    intro levels
    induction levels with
    | nil => exact fun operand _ => .refl operand ls
    | cons ops levels ih =>
      intro operand hlevels
      obtain ⟨hops, hlevels⟩ := List.forall_mem_cons.mp hlevels
      exact (ih _ hlevels).trans (leftJoined_passes hops operand ls)
  exact hall arithmeticLevels _ fun _ => id

def comparisonSymbols : List String := ["==", "!=", "<", "<=", ">", ">="]

theorem mem_comparisonSymbols {w : String} {op : CompareOp} (h : isComparison w = some op) :
    w ∈ comparisonSymbols := by
  unfold isComparison at h
  split at h <;> first | (cases h; done) | simp [comparisonSymbols]

theorem comparison?_ends (hrest : Ends 5 rest) : comparison? rest = .ok (none, rest) := by
  have htable : ∀ e ∈ enders, e.2 ≤ 5 → ∀ w ∈ comparisonSymbols, e.1 ≠ .symbol w := by decide
  rw [comparison?, bind_ok (next?_eq _)]
  show _ = (pure none : Reader (Option CompareOp)) rest
  refine congrFun ?_ rest
  split
  next w hw =>
    cases hop : isComparison w with
    | none => rfl
    | some op =>
      have hmem := mem_comparisonSymbols hop
      exact absurd hw (hrest.ne fun e he hk => htable e he hk w hmem)
  next h => exact absurd h (hrest.ne (by decide))
  next h => exact absurd h (hrest.ne (by decide))
  next h => exact absurd h (hrest.ne (by decide))
  next => rfl

theorem comparison_passes (self : Goal → Reader Term) (ls : List Lexeme) :
    Passes 5 (comparison self) (bitwiseOr self) ls where
  ok {t rest} h hrest := by
    have hnone := comparison?_ends hrest
    rw [comparison, bind_ok h, bind_ok (loop_stop (by rw [bind_ok hnone]; rfl))]
    rfl
  error h := bind_error h

theorem conjunction_passes (self : Goal → Reader Term) (ls : List Lexeme) :
    Passes 3 (conjunction self) (self .inversion) ls := by
  refine passes_loop (fun t rest hrest => ?_) ls
  have hand : optionalWord "and" rest = .ok (false, rest) := optional_of_ne (hrest.ne (by decide))
  rw [bind_ok hand]
  rfl

theorem disjunction_passes (self : Goal → Reader Term) (ls : List Lexeme) :
    Passes 2 (disjunction self) (conjunction self) ls := by
  refine passes_loop (fun t rest hrest => ?_) ls
  have hor : optionalWord "or" rest = .ok (false, rest) := optional_of_ne (hrest.ne (by decide))
  rw [bind_ok hor]
  rfl

theorem missingComma_ends (self alone : Goal → Reader Term) (ls : List Lexeme) (h : Ends k rest) :
    missingComma self alone ls rest = .ok ((), rest) := by
  have hstarts : starts (token? rest) = false :=
    h.token (P := fun u => starts u = false) rfl fun e he _ => by
      have htable : ∀ e ∈ enders, starts (some e.1) = false := by decide
      exact htable e he
  rw [missingComma, hstarts]
  rfl

theorem conditional_passes (self alone : Goal → Reader Term) (ls : List Lexeme) :
    Passes 1 (conditional self (some alone)) (disjunction self) ls where
  ok {t rest} h hrest := by
    have hif : atWord "if" rest = .ok (false, rest) := atToken_of_ne (hrest.ne (by decide))
    rw [conditional, bind_ok (line_eq ls), bind_ok (get_eq ls), bind_ok h, bind_ok hif]
    dsimp only
    rw [bind_ok (missingComma_ends self alone ls hrest)]
    rfl
  error h := by
    rw [conditional, bind_ok (line_eq ls), bind_ok (get_eq ls), bind_error h]

/-! What stands at the front decides which levels have a form of their own there. -/

theorem power_passes (self : Goal → Reader Term) (hawait : token? ls ≠ some (.word "await")) :
    Passes operandLevel (power self) (primary self) ls := by
  have hawait : optionalWord "await" ls = .ok (false, ls) := optional_of_ne hawait
  refine ⟨fun {t rest} h hrest => ?_, fun h => ?_⟩
  · have hpower : optionalSymbol "**" rest = .ok (false, rest) :=
      optional_of_ne (hrest.ne (by decide))
    rw [power, bind_ok hawait]
    simp only [Bool.false_eq_true, if_false]
    rw [bind_ok h, bind_ok hpower]
    rfl
  · rw [power, bind_ok hawait]
    simp only [Bool.false_eq_true, if_false]
    rw [bind_error h]

theorem factor_eq (self : Goal → Reader Term)
    (hnone : ∀ s, token? ls = some (.symbol s) → prefixes.lookup s = none) :
    factor self ls = power self ls := by
  rw [factor, bind_ok (next?_eq _)]
  refine congrFun ?_ ls
  split
  next s hs => rw [hnone s hs]
  next => rfl

theorem inversion_eq (self : Goal → Reader Term) (hnot : token? ls ≠ some (.word "not")) :
    inversion self ls = comparison self ls := by
  have hnot : optionalWord "not" ls = .ok (false, ls) := optional_of_ne hnot
  rw [inversion, bind_ok hnot]
  rfl

theorem expression_eq (self : Goal → Reader Term) (alone? : Option (Goal → Reader Term))
    (hlambda : token? ls ≠ some (.word "lambda")) :
    expression self alone? ls = conditional self alone? ls := by
  have hlambda : atWord "lambda" ls = .ok (false, ls) := atToken_of_ne hlambda
  rw [expression, bind_ok hlambda]
  rfl

/-- The reader of a level of operators. The fuel is for what the operands contain. -/
def reader (fuel : Nat) : Nat → Reader Term
  | 0 | 1 => read (fuel + 3) .expression
  | 2 => disjunction (read (fuel + 2))
  | 3 => conjunction (read (fuel + 2))
  | 4 => read (fuel + 2) .inversion
  | 5 => comparison (read (fuel + 1))
  | _ => bitwiseOr (read (fuel + 1))

section Levels

variable {fuel : Nat} (hlambda : token? ls ≠ some (.word "lambda"))
include hlambda

theorem reader_succ (k : Nat) (hnot : k = 4 → token? ls ≠ some (.word "not")) :
    Passes k (reader fuel k) (reader fuel (k + 1)) ls := by
  match k with
  | 0 => exact .refl _ ls
  | 1 => exact .trans (.of_eq (expression_eq _ _ hlambda)) (conditional_passes _ _ ls)
  | 2 => exact disjunction_passes _ ls
  | 3 => exact conjunction_passes _ ls
  | 4 => exact .of_eq (inversion_eq _ (hnot rfl))
  | 5 => exact comparison_passes _ ls
  | _ + 6 => exact .refl _ ls

/-- Where no negation stands that the closer level does not read, each level reads what a closer
one reads. -/
theorem reader_passes (hk : k ≤ k') (hnot : 4 < k' → token? ls ≠ some (.word "not")) :
    Passes k (reader fuel k) (reader fuel k') ls := by
  induction hk with
  | refl => exact .refl _ ls
  | @step n hn ih =>
    exact (ih fun h => hnot (by omega)).trans
      ((reader_succ hlambda n fun h => hnot (by omega)).mono hn)

end Levels

/-- No assignment to a name stands here. -/
theorem atNameThen_of_ne {s : String} (h : token? ls.tail ≠ some (.symbol s)) :
    atNameThen s ls = .ok (false, ls) := by
  rw [atNameThen, bind_ok (get_eq _)]
  match ls, h with
  | [], _ => rfl
  | [_], _ => rfl
  | l :: l' :: _, h =>
    have hbeq : (l'.token == .symbol s) = false := by simpa [token?] using h
    simp only [hbeq, Bool.and_false]
    rfl

theorem named_passes (self : Goal → Reader Term) (h : token? ls.tail ≠ some (.symbol ":=")) :
    Passes k (named self) (self .expression) ls := by
  have hnone : assignment? self ls = .ok (none, ls) := by
    rw [assignment?, bind_ok (atNameThen_of_ne h)]
    rfl
  refine ⟨fun {t rest} h hrest => ?_, fun h => ?_⟩
  · have hplaced : misplacedAssignment self ((ls.head?.map Lexeme.line).getD 0) t rest =
        .ok ((), rest) := by
      have htable : ∀ e ∈ enders, e.1 ≠ .symbol ":=" ∧ e.1 ≠ .symbol "=" := by decide
      have hassign := hrest.ne fun e he _ => (htable e he).1
      have hequals := hrest.ne fun e he _ => (htable e he).2
      simp [misplacedAssignment, hassign, hequals]
    rw [named, bind_ok hnone]
    dsimp only
    rw [bind_ok (line_eq ls), bind_ok h, bind_ok hplaced]
    rfl
  · rw [named, bind_ok hnone]
    dsimp only
    rw [bind_ok (line_eq ls), bind_error h]

section Operands

variable {l : Lexeme} {w : String}

theorem atom_name (self : Goal → Reader Term) (hl : l.token = .word w)
    (hw : isReserved w = false) :
    atom self (l :: rest) = .ok (.name (Text.normalize w), rest) := by
  have htoken : token? (l :: rest) = some (.word w) := congrArg some hl
  have hname : AtName (l :: rest) := ⟨w, htoken, hw⟩
  rw [atom, bind_ok (line_eq _), bind_ok (next?_eq _)]
  have hread : (do return .name (← Reader.name) : Reader Term) (l :: rest) =
      .ok (.name (Text.normalize w), rest) := by
    rw [bind_ok (name_of_atName hl hw)]
    rfl
  refine (congrFun ?_ (l :: rest)).trans hread
  split
  next h => exact absurd h (hname.ne_word (by decide))
  next h => exact absurd h (hname.ne_word (by decide))
  next h => exact absurd h (hname.ne_word (by decide))
  all_goals simp_all

/-- What may follow a term on the level of names and brackets. -/
def trailer (self : Goal → Reader Term) (t : Term) : Reader (Option Term) := do
  match ← next? with
  | some (.symbol ".") => advance; return some (.access t (← Reader.name))
  | some (.symbol "(") => advance; let _ ← arguments self true; return some (.call t)
  | some (.symbol "[") =>
      advance
      let index ← slices self
      Reader.symbol "]"
      return some (.subscript t index)
  | _ => return none

theorem primary_eq (self : Goal → Reader Term) : primary self = atom self >>= loop (trailer self) :=
  rfl

theorem trailer_ends (self : Goal → Reader Term) (t : Term) (hrest : Ends k rest) :
    trailer self t rest = .ok (none, rest) := by
  have htable : ∀ e ∈ enders, e.1 ≠ .symbol "." ∧ e.1 ≠ .symbol "(" ∧ e.1 ≠ .symbol "[" := by
    decide
  rw [trailer, bind_ok (next?_eq _)]
  show _ = (pure none : Reader (Option Term)) rest
  refine congrFun ?_ rest
  split
  next h => exact absurd h (hrest.ne fun e he _ => (htable e he).1)
  next h => exact absurd h (hrest.ne fun e he _ => (htable e he).2.1)
  next h => exact absurd h (hrest.ne fun e he _ => (htable e he).2.2)
  next => rfl

/-- Where nothing goes on, an atom is all of a primary. -/
theorem primary_atom (self : Goal → Reader Term) (h : atom self ls = .ok (t, rest))
    (hrest : Ends k rest) : primary self ls = .ok (t, rest) := by
  rw [primary_eq, bind_ok h]
  exact loop_stop (trailer_ends self _ hrest)

end Operands

end Expression

section Whole

open Reader Expression

/-- The reader of a text that is one expression. -/
def wholeExpression (item : Reader Term) : Reader Term := do
  let (ts, comma) ← commaList starts item
  loop (fun () => do if ← optional .newline then return some () else return none) ()
  token .finish
  match ts, comma with
  | [t], false => return t
  | ts, _ => return .tuple ts

theorem readExpression?_eq (source : String) : readExpression? source =
    match wholeExpression (read (3 * source.length + 3) .expression)
      (scan (Text.unifyLineEnds source.toList)).lexemes with
    | .ok (t, _) => some t
    | .error _ => none := rfl

theorem wholeExpression_ok {item : Reader Term} {ls : List Lexeme} {t : Term} {l : Lexeme}
    (h : item ls = .ok (t, [l])) (hl : l.token = .finish) :
    wholeExpression item ls = .ok (t, []) := by
  have hfinish : token? [l] = some .finish := congrArg some hl
  have hends : Ends 0 [l] := ends_of_token (by decide) hl
  have hline : optional .newline [l] = .ok (false, [l]) := optional_of_ne (by simp [hfinish])
  have htoken : Reader.token .finish [l] = .ok ((), []) := token_of_eq hfinish
  rw [wholeExpression, bind_ok (commaList_of_ends h hends)]
  dsimp only
  rw [bind_ok (loop_stop (by rw [bind_ok hline]; rfl)), bind_ok htoken]
  rfl

end Whole

end ViewModel.Source
