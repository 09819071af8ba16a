import ViewModel.Proofs.Source.Levels
import ViewModel.Proofs.Source.Scanning

/-!
Reading operators. The reader of a level whose operators join from the left is in the middle of its
loop after every operand; so what it has read is said with whatever may follow, and an expression is
complete where a token ends its level. Each way to put expressions together has a lemma of its own.
-/

namespace ViewModel.Source

namespace Reader

variable {α β : Type} {p : Reader β} {step : α → Reader (Option α)} {finish : α → Reader β}
  {k k' : Nat} {ls ls' rest : List Lexeme} {a b : α}

theorem bind_congr {p q : Reader α} {f : α → Reader β} (h : p ls = q ls') :
    (p >>= f) ls = (q >>= f) ls' := by
  simp only [bind, StateT.bind, h]

theorem bind_pure_eq (p : Reader α) (ls : List Lexeme) : (p >>= pure) ls = p ls := by
  cases h : p ls with
  | ok r => exact bind_ok h
  | error e => exact bind_error h

/-- After `ls` the reader `p` has come to `a` in its loop, and goes on from there. -/
def Arrives (p : Reader β) (step : α → Reader (Option α)) (finish : α → Reader β) (k : Nat)
    (ls : List Lexeme) (a : α) : Prop :=
  ∀ rest, Ends k rest →
    ∃ n, rest.length ≤ n ∧ p (ls ++ rest) = (iterate step n a >>= finish) rest

namespace Arrives

theorem stop (h : Arrives p step finish k ls a) (hrest : Ends k rest)
    (hstep : step a rest = .ok (none, rest)) : p (ls ++ rest) = finish a rest := by
  obtain ⟨n, -, hp⟩ := h rest hrest
  rw [hp, bind_ok (iterate_stop hstep n)]

/-- A step takes a token at least, so there are steps left for what follows. -/
theorem next (h : Arrives p step finish k ls a) (hls : ls' ≠ [])
    (hends : ∀ rest, Ends k (ls' ++ rest))
    (hstep : ∀ rest, Ends k rest → step a (ls' ++ rest) = .ok (some b, rest)) :
    Arrives p step finish k (ls ++ ls') b := by
  intro rest hrest
  obtain ⟨n, hn, hp⟩ := h _ (hends rest)
  have hpos := List.length_pos_iff.mpr hls
  rw [List.length_append] at hn
  obtain ⟨n, rfl⟩ := Nat.exists_eq_add_of_le' (show 1 ≤ n by omega)
  refine ⟨n, by omega, ?_⟩
  rw [List.append_assoc, hp]
  refine bind_congr ?_
  rw [iterate, bind_ok (hstep rest hrest)]

end Arrives

end Reader

namespace Expression

open Reader

variable {fuel k n n' n'' : Nat} {ls ls' ls'' rest : List Lexeme} {l l' : Lexeme} {t u v : Term}
  {conjunction : Bool} {op : CompareOp}

/-! The loops of the levels. -/

def joinWord (conjunction : Bool) : String := if conjunction then "and" else "or"

def joinLevel (conjunction : Bool) : Nat := if conjunction then 3 else 2

def joinStep (conjunction : Bool) (operand : Reader Term) (left : Term) :
    Reader (Option Term) := do
  if ← optionalWord (joinWord conjunction) then
    return some (.logical conjunction left (← operand))
  else return none

theorem reader_joinLevel (fuel : Nat) (conjunction : Bool) :
    reader fuel (joinLevel conjunction) = reader fuel (joinLevel conjunction + 1) >>=
      loop (joinStep conjunction (reader fuel (joinLevel conjunction + 1))) := by
  cases conjunction <;> rfl

def linkStep (operand : Reader Term) (links : List (CompareOp × Term)) :
    Reader (Option (List (CompareOp × Term))) := do
  match ← comparison? with
  | some op => return some (links ++ [(op, ← operand)])
  | none => return none

def chained (first : Term) (links : List (CompareOp × Term)) : Reader Term :=
  return match links with
    | [] => first
    | (op, second) :: more => .compare first op second more

theorem reader_comparison (fuel : Nat) : reader fuel 5 = (do
    let first ← reader fuel operandLevel
    loop (linkStep (reader fuel operandLevel)) [] >>= chained first) := rfl

/-- The reader of a level of `and` or `or` has come to `t`. -/
def Joins (fuel : Nat) (conjunction : Bool) (ls : List Lexeme) (t : Term) : Prop :=
  Arrives (reader fuel (joinLevel conjunction))
    (joinStep conjunction (reader fuel (joinLevel conjunction + 1))) pure
    (joinLevel conjunction + 1) ls t

/-- The reader of comparisons has come to `t`. -/
def Links (fuel : Nat) (ls : List Lexeme) (t : Term) : Prop :=
  ∃ first op second more, t = .compare first op second more ∧
    Arrives (reader fuel 5) (linkStep (reader fuel operandLevel)) (chained first) operandLevel ls
      ((op, second) :: more)

/-- The reader of a level reads `ls` as `t`. Where operators join from the left it may go on. -/
def Leads (fuel : Nat) (ls : List Lexeme) (t : Term) : Nat → Prop
  | 2 => Joins fuel false ls t
  | 3 => Joins fuel true ls t
  | 5 => Links fuel ls t
  | k => ∀ rest, Ends k rest → reader fuel k (ls ++ rest) = .ok (t, rest)

theorem joins_iff : Joins fuel conjunction ls t ↔ Leads fuel ls t (joinLevel conjunction) := by
  cases conjunction <;> exact Iff.rfl

theorem Joins.read (h : Joins fuel conjunction ls t) (hrest : Ends (joinLevel conjunction) rest) :
    reader fuel (joinLevel conjunction) (ls ++ rest) = .ok (t, rest) := by
  have hword : optionalWord (joinWord conjunction) rest = .ok (false, rest) := by
    cases conjunction <;> exact optional_of_ne (hrest.ne (by decide))
  refine h.stop (hrest.mono (Nat.le_succ _)) ?_
  rw [joinStep, bind_ok hword]
  rfl

theorem Links.read (h : Links fuel ls t) (hrest : Ends 5 rest) :
    reader fuel 5 (ls ++ rest) = .ok (t, rest) := by
  obtain ⟨first, op, second, more, rfl, h⟩ := h
  refine h.stop (hrest.mono (by decide)) ?_
  rw [linkStep, bind_ok (comparison?_ends hrest)]
  rfl

theorem Leads.read (h : Leads fuel ls t k) (hrest : Ends k rest) :
    reader fuel k (ls ++ rest) = .ok (t, rest) := by
  unfold Leads at h
  split at h
  · exact Joins.read h hrest
  · exact Joins.read h hrest
  · exact Links.read h hrest
  · exact h rest hrest

/-- What can be an expression of the level `n` by its front: neither a function nor, closer than
negations, a negation. -/
structure Opens (n : Nat) (ls : List Lexeme) : Prop where
  starts : ∃ u, token? ls = some u ∧ starts (some u) = true
  not_lambda : token? ls ≠ some (.word "lambda")
  not_await : token? ls ≠ some (.word "await")
  not_negation : 4 < n → token? ls ≠ some (.word "not")

namespace Opens

theorem ne_nil (h : Opens n ls) : ls ≠ [] := by
  rintro rfl
  obtain ⟨u, hu, -⟩ := h.starts
  cases hu

theorem append (h : Opens n ls) (ls' : List Lexeme) (hn : 4 < n' → 4 < n) :
    Opens n' (ls ++ ls') := by
  obtain ⟨l, ls, rfl⟩ := List.exists_cons_of_ne_nil h.ne_nil
  exact ⟨h.starts, h.not_lambda, h.not_await, fun hn' => h.not_negation (hn hn')⟩

/-- No other token stands here. -/
theorem ne (h : Opens n ls) {u : Token} (hu : Expression.starts (some u) = false) :
    token? ls ≠ some u := by
  obtain ⟨w, hw, hstarts⟩ := h.starts
  intro heq
  obtain rfl := Option.some.inj (hw.symm.trans heq)
  rw [hstarts] at hu
  cases hu

end Opens

theorem opens_of_atName (h : AtName ls) : Opens n ls where
  starts := by
    obtain ⟨w, hw, hreserved⟩ := h
    exact ⟨_, hw, by simp [Expression.starts, hreserved]⟩
  not_lambda := h.ne_word (by decide)
  not_await := h.ne_word (by decide)
  not_negation _ := h.ne_word (by decide)

/-- The tokens `ls` are an expression of the level `n` and say the term `t`. -/
structure Says (n : Nat) (ls : List Lexeme) (t : Term) : Prop where
  opens : Opens n ls
  no_assignment : ∀ l ∈ ls, l.token ≠ .symbol ":="
  not_starred : t.isStarred = false
  leads : ∀ fuel, 3 * ls.length ≤ fuel → Leads fuel ls t n

/-- The tokens of a comparison that is no test of membership. -/
inductive Compares : List Lexeme → CompareOp → Prop
  | symbol {l : Lexeme} {w : String} {op : CompareOp} (hl : l.token = .symbol w)
      (hop : isComparison w = some op) : Compares [l] op
  | is {l : Lexeme} (hl : l.token = .word "is") : Compares [l] .is
  | isNot {l l' : Lexeme} (hl : l.token = .word "is") (hl' : l'.token = .word "not") :
      Compares [l, l'] .isNot

/-- The words for constants. -/
def keywords : List (String × Constant) :=
  [("None", .none), ("True", .bool true), ("False", .bool false)]

/-- The tokens that read these names of an object one after the other. -/
def dotted (names : List String) : List Token :=
  names.flatMap fun name => [.symbol ".", .word name]

theorem comparison?_symbol {w : String} (hl : l.token = .symbol w)
    (hop : isComparison w = some op) : comparison? (l :: rest) = .ok (some op, rest) := by
  have hnext : next? (l :: rest) = .ok (some (.symbol w), l :: rest) := by
    rw [← hl]
    rfl
  rw [comparison?, bind_ok hnext]
  dsimp only
  rw [hop]
  rfl

theorem comparison?_is (hl : l.token = .word "is") : comparison? (l :: rest) =
    (optionalWord "not" >>= fun negated => return some (if negated then .isNot else .is)) rest := by
  have hnext : next? (l :: rest) = .ok (some (.word "is"), l :: rest) := by
    rw [← hl]
    rfl
  rw [comparison?, bind_ok hnext]
  rfl

theorem Compares.read (h : Compares ls op) (hnot : token? rest ≠ some (.word "not")) :
    comparison? (ls ++ rest) = .ok (some op, rest) := by
  cases h with
  | symbol hl hop => exact comparison?_symbol hl hop
  | is hl =>
    have hword : optionalWord "not" rest = .ok (false, rest) := optional_of_ne hnot
    exact (comparison?_is hl).trans (bind_ok hword)
  | @isNot _ l' hl hl' =>
    have hword : optionalWord "not" (l' :: rest) = .ok (true, rest) :=
      optional_of_eq (congrArg some hl')
    exact (comparison?_is hl).trans (bind_ok hword)

theorem Compares.ends (h : Compares ls op) : Ends operandLevel (ls ++ rest) := by
  cases h with
  | @symbol _ w _ hl hop =>
    have htable : ∀ w ∈ comparisonSymbols, (Token.symbol w, operandLevel) ∈ enders := by decide
    exact ends_of_token (htable w (mem_comparisonSymbols hop)) hl
  | is hl | isNot hl => exact ends_of_token (t := .word "is") (by decide) hl

theorem Compares.no_assignment (h : Compares ls op) : ∀ l ∈ ls, l.token ≠ .symbol ":=" := by
  cases h with
  | symbol hl hop =>
    refine List.forall_mem_singleton.mpr fun heq => ?_
    obtain rfl := Token.symbol.inj (hl.symm.trans heq)
    cases hop
  | is hl => simp [hl]
  | isNot hl hl' => simp [hl, hl']

namespace Says

/-- An expression is read at every level that is not closer than its own. -/
theorem read (h : Says n ls t) (hk : k ≤ n) (hfuel : 3 * ls.length ≤ fuel) (hrest : Ends k rest) :
    reader fuel k (ls ++ rest) = .ok (t, rest) := by
  have hopens := h.opens.append rest id
  exact (reader_passes hopens.not_lambda hk hopens.not_negation).ok
    ((h.leads fuel hfuel).read (hrest.mono hk)) hrest

/-- An expression that is put between brackets does not start as an assignment does. -/
theorem tail_ne (h : Says n ls t) (hl : l.token ≠ .symbol ":=") :
    token? (ls ++ l :: rest).tail ≠ some (.symbol ":=") := by
  obtain ⟨first, ls, rfl⟩ := List.exists_cons_of_ne_nil h.opens.ne_nil
  cases ls with
  | nil => simpa [token?] using hl
  | cons second ls => simpa [token?] using h.no_assignment second (by simp)

section Joined

theorem joins (h : Says n ls t) (hn : joinLevel conjunction ≤ n) (hfuel : 3 * ls.length ≤ fuel) :
    Joins fuel conjunction ls t := by
  rcases Nat.eq_or_lt_of_le hn with rfl | hn
  · exact joins_iff.mpr (h.leads fuel hfuel)
  · intro rest hrest
    refine ⟨rest.length, Nat.le_refl _, ?_⟩
    rw [reader_joinLevel, bind_ok (h.read hn hfuel hrest), bind_pure_eq]
    rfl

theorem logical (hl : l.token = .word (joinWord conjunction)) (left : Says n ls t)
    (hn : joinLevel conjunction ≤ n) (right : Says n' ls' u) (hn' : joinLevel conjunction < n') :
    Says (joinLevel conjunction) (ls ++ l :: ls') (.logical conjunction t u) where
  opens := left.opens.append _ fun h => by
    cases conjunction <;> exact absurd h (by decide)
  no_assignment := by
    rw [List.forall_mem_append, List.forall_mem_cons]
    exact ⟨left.no_assignment, by cases conjunction <;> simp [hl], right.no_assignment⟩
  not_starred := rfl
  leads fuel hfuel := by
    rw [List.length_append, List.length_cons] at hfuel
    refine joins_iff.mp (Arrives.next (left.joins hn (by omega)) (by simp) (fun rest => ?_)
      fun rest hrest => ?_)
    · cases conjunction <;> exact ends_of_token (by decide) hl
    · have hword : optionalWord (joinWord conjunction) (l :: ls' ++ rest) =
          .ok (true, ls' ++ rest) := optional_of_eq (congrArg some hl)
      rw [joinStep, bind_ok hword, if_pos rfl, bind_ok (right.read hn' (by omega) hrest)]
      rfl

end Joined

section Compared

theorem arrives_operand (h : Says n ls t) (hn : operandLevel ≤ n)
    (hfuel : 3 * ls.length ≤ fuel) :
    Arrives (reader fuel 5) (linkStep (reader fuel operandLevel)) (chained t) operandLevel ls
      [] := by
  intro rest hrest
  refine ⟨rest.length, Nat.le_refl _, ?_⟩
  rw [reader_comparison, bind_ok (h.read hn hfuel hrest)]
  rfl

/-- One more link of a chain of comparisons. -/
theorem arrives_link {first : Term} {links : List (CompareOp × Term)}
    (h : Arrives (reader fuel 5) (linkStep (reader fuel operandLevel)) (chained first) operandLevel
      ls links)
    (hop : Compares ls' op) (right : Says n ls'' u) (hn : operandLevel ≤ n)
    (hfuel : 3 * ls''.length ≤ fuel) :
    Arrives (reader fuel 5) (linkStep (reader fuel operandLevel)) (chained first) operandLevel
      (ls ++ (ls' ++ ls'')) (links ++ [(op, u)]) := by
  refine h.next (by simp [right.opens.ne_nil]) (fun rest => ?_) fun rest hrest => ?_
  · rw [List.append_assoc]
    exact hop.ends
  · have hnot : token? (ls'' ++ rest) ≠ some (.word "not") :=
      (right.opens.append rest id).not_negation (Nat.lt_of_lt_of_le (by decide) hn)
    rw [linkStep, List.append_assoc, bind_ok (hop.read hnot)]
    dsimp only
    rw [bind_ok (right.read hn hfuel hrest)]
    rfl

theorem compared (left : Says n ls t) (hn : operandLevel ≤ n) (hop : Compares ls' op)
    (right : Says n' ls'' u) (hn' : operandLevel ≤ n') :
    Says 5 (ls ++ (ls' ++ ls'')) (.compare t op u []) where
  opens := left.opens.append _ fun _ => Nat.lt_of_lt_of_le (by decide) hn
  no_assignment := by
    rw [List.forall_mem_append, List.forall_mem_append]
    exact ⟨left.no_assignment, hop.no_assignment, right.no_assignment⟩
  not_starred := rfl
  leads fuel hfuel := by
    simp only [List.length_append] at hfuel
    exact ⟨t, op, u, [], rfl,
      arrives_link (arrives_operand left hn (by omega)) hop right hn' (by omega)⟩

theorem linked {first second : Term} {op op' : CompareOp} {more : List (CompareOp × Term)}
    (left : Says 5 ls (.compare first op second more)) (hop : Compares ls' op')
    (right : Says n ls'' u) (hn : operandLevel ≤ n) :
    Says 5 (ls ++ (ls' ++ ls'')) (.compare first op second (more ++ [(op', u)])) where
  opens := left.opens.append _ id
  no_assignment := by
    rw [List.forall_mem_append, List.forall_mem_append]
    exact ⟨left.no_assignment, hop.no_assignment, right.no_assignment⟩
  not_starred := rfl
  leads fuel hfuel := by
    simp only [List.length_append] at hfuel
    obtain ⟨first', op'', second', more', heq, h⟩ := left.leads fuel (by omega)
    obtain ⟨rfl, rfl, rfl, rfl⟩ := Term.compare.inj heq
    exact ⟨first, op, second, _, rfl, arrives_link h hop right hn (by omega)⟩

end Compared

theorem negated (hl : l.token = .word "not") (h : Says n ls t) (hn : 4 ≤ n) :
    Says 4 (l :: ls) (.unary .not t) where
  opens := by
    have htoken : token? (l :: ls) = some (.word "not") := congrArg some hl
    exact ⟨⟨_, htoken, rfl⟩, by simp [htoken], by simp [htoken], by simp⟩
  no_assignment := List.forall_mem_cons.mpr ⟨by simp [hl], h.no_assignment⟩
  not_starred := rfl
  leads fuel hfuel rest hrest := by
    rw [List.length_cons] at hfuel
    obtain ⟨fuel, rfl⟩ := Nat.exists_eq_add_of_le' (show 1 ≤ fuel by omega)
    have hword : optionalWord "not" (l :: (ls ++ rest)) = .ok (true, ls ++ rest) :=
      optional_of_eq (congrArg some hl)
    have hread : Expression.read (fuel + 2) .inversion (ls ++ rest) = .ok (t, rest) :=
      h.read hn (by omega) hrest
    show inversion (Expression.read (fuel + 2)) (l :: (ls ++ rest)) = _
    rw [inversion, bind_ok hword, if_pos rfl, bind_ok hread]
    rfl

section Conditional

variable {self alone : Goal → Reader Term}

theorem restOfConditional_ok (line : Nat) (hl : l.token = .word "if")
    (htest : disjunction self ls = .ok (u, l' :: ls')) (hl' : l'.token = .word "else")
    (hother : self .expression ls' = .ok (v, rest)) :
    restOfConditional self line t (l :: ls) = .ok (.conditional u t v, rest) := by
  have hif : Reader.word "if" (l :: ls) = .ok ((), ls) := token_of_eq (congrArg some hl)
  have hand : tested self line ls = .ok (u, l' :: ls') := by rw [tested, htest]
  have helse : optionalWord "else" (l' :: ls') = .ok (true, ls') :=
    optional_of_eq (congrArg some hl')
  rw [restOfConditional, bind_ok hif, bind_ok hand, bind_ok helse, if_pos rfl, bind_ok hother]
  rfl

theorem expression_conditional (hlambda : token? ls ≠ some (.word "lambda"))
    (hvalue : disjunction self ls = .ok (t, l :: ls')) (hl : l.token = .word "if")
    (h : ∀ line, restOfConditional self line t (l :: ls') = .ok (u, rest)) :
    expression self (some alone) ls = .ok (u, rest) := by
  have hif : atWord "if" (l :: ls') = .ok (true, l :: ls') := by
    rw [atWord, atToken_eq, show token? (l :: ls') = some (.word "if") from congrArg some hl,
      beq_self_eq_true]
  rw [expression_eq _ _ hlambda, Expression.conditional, bind_ok (line_eq ls),
    bind_ok (get_eq ls), bind_ok hvalue, bind_ok hif]
  exact h _

/-- The value of a conditional comes first, its test in the middle. -/
theorem conditional (value : Says n ls t) (hn : 1 < n) (hl : l.token = .word "if")
    (test : Says n' ls' u) (hn' : 1 < n') (hl' : l'.token = .word "else")
    (other : Says n'' ls'' v) (hn'' : 1 ≤ n'') :
    Says 1 (ls ++ l :: (ls' ++ l' :: ls'')) (.conditional u t v) where
  opens := value.opens.append _ (by simp)
  no_assignment := by
    simp only [List.forall_mem_append, List.forall_mem_cons]
    exact ⟨value.no_assignment, by simp [hl], test.no_assignment, by simp [hl'],
      other.no_assignment⟩
  not_starred := rfl
  leads fuel hfuel rest hrest := by
    simp only [List.length_append, List.length_cons] at hfuel
    obtain ⟨fuel, rfl⟩ := Nat.exists_eq_add_of_le' (show 1 ≤ fuel by omega)
    let otherwise := l' :: (ls'' ++ rest)
    let ifTested := l :: (ls' ++ otherwise)
    have hwhole : ls ++ l :: (ls' ++ l' :: ls'') ++ rest = ls ++ ifTested := by
      simp [ifTested, otherwise]
    have hvalue : reader (fuel + 1) 2 (ls ++ ifTested) = .ok (t, ifTested) :=
      value.read hn (by omega) (ends_of_token (by decide) hl)
    have htest : reader (fuel + 1) 2 (ls' ++ otherwise) = .ok (u, otherwise) :=
      test.read hn' (by omega) (ends_of_token (by decide) hl')
    have hother : Expression.read (fuel + 3) .expression (ls'' ++ rest) = .ok (v, rest) :=
      other.read (k := 1) hn'' (by omega) hrest
    rw [hwhole]
    exact expression_conditional (value.opens.append ifTested id).not_lambda hvalue hl fun line =>
      restOfConditional_ok line hl htest hl' hother

end Conditional

section Operands

variable {self : Goal → Reader Term} {c : Constant}

/-- What is read by the level of signs is an expression of every level of operands. -/
theorem operand (hn : operandLevel ≤ n) (hopens : Opens n ls)
    (hassignment : ∀ l ∈ ls, l.token ≠ .symbol ":=") (hstarred : t.isStarred = false)
    (h : ∀ fuel rest, 3 * ls.length ≤ fuel → Ends operandLevel rest →
      factor (Expression.read fuel) (ls ++ rest) = .ok (t, rest)) : Says n ls t where
  opens := hopens
  no_assignment := hassignment
  not_starred := hstarred
  leads fuel hfuel := by
    obtain ⟨m, rfl⟩ := Nat.exists_eq_add_of_le' hn
    intro rest hrest
    exact (bitwiseOr_passes (Expression.read (fuel + 1)) (ls ++ rest)).ok
      (h fuel rest hfuel hrest.operand) hrest.operand

theorem factor_primary (hopens : Opens n ls)
    (hnone : ∀ s, token? ls = some (.symbol s) → prefixes.lookup s = none)
    (h : primary self ls = .ok (t, rest)) (hrest : Ends operandLevel rest) :
    factor self ls = .ok (t, rest) :=
  (factor_eq self hnone).trans ((power_passes self hopens.not_await).ok h hrest)

section Single

variable (hstarts : starts (some l.token) = true)
  (hword : ∀ w ∈ ["lambda", "await", "not"], l.token ≠ .word w)
include hstarts hword

theorem opens_single (n : Nat) (rest : List Lexeme) : Opens n (l :: rest) :=
  ⟨⟨_, rfl, hstarts⟩, fun heq => hword _ (by simp) (Option.some.inj heq),
    fun heq => hword _ (by simp) (Option.some.inj heq),
    fun _ heq => hword _ (by simp) (Option.some.inj heq)⟩

variable (hsymbol : ∀ s, l.token ≠ .symbol s)
include hsymbol

theorem factor_atom (h : atom self (l :: rest) = .ok (t, rest)) (hrest : Ends operandLevel rest) :
    factor self (l :: rest) = .ok (t, rest) :=
  factor_primary (opens_single hstarts hword 0 rest)
    (fun s hs => absurd (Option.some.inj hs) (hsymbol s)) (primary_atom _ h hrest) hrest

/-- A token that is an atom. -/
theorem single (hn : operandLevel ≤ n) (hstarred : t.isStarred = false)
    (h : ∀ self rest, Ends operandLevel rest → atom self (l :: rest) = .ok (t, rest)) :
    Says n [l] t :=
  operand hn (opens_single hstarts hword n []) (by simpa using hsymbol _) hstarred
    fun _ rest _ hrest => factor_atom hstarts hword hsymbol (h _ rest hrest) hrest

end Single

theorem atom_number (self : Goal → Reader Term) (hl : l.token = .number c) :
    atom self (l :: rest) = .ok (.constant c, rest) := by
  have hnext : next? (l :: rest) = .ok (some (.number c), l :: rest) := by
    rw [← hl]
    rfl
  rw [atom, bind_ok (line_eq _), bind_ok hnext]
  rfl

theorem number (hn : operandLevel ≤ n) (hl : l.token = .number c) : Says n [l] (.constant c) :=
  single (by rw [hl]; rfl) (by simp [hl]) (by simp [hl]) hn rfl fun self _ _ => atom_number self hl

/-- A number after a minus. -/
theorem negative (hn : operandLevel ≤ n) (hl : l.token = .symbol "-") (hl' : l'.token = .number c) :
    Says n [l, l'] (.unary .minus (.constant c)) := by
  have hminus {rest : List Lexeme} : token? (l :: rest) = some (.symbol "-") := congrArg some hl
  refine operand hn ⟨⟨_, hminus, rfl⟩, by simp [hminus], by simp [hminus], by simp [hminus]⟩
    (by simp [hl, hl']) rfl fun fuel rest hfuel hrest => ?_
  obtain ⟨fuel, rfl⟩ := Nat.exists_eq_add_of_le' (show 1 ≤ fuel by simp at hfuel; omega)
  have hnumber : Expression.read (fuel + 1) .factor (l' :: rest) = .ok (.constant c, rest) :=
    factor_atom (by rw [hl']; rfl) (by simp [hl']) (by simp [hl']) (atom_number _ hl') hrest
  have hnext : next? ([l, l'] ++ rest) = .ok (some (.symbol "-"), l :: l' :: rest) := by
    rw [← hl]
    rfl
  have hsign : factor (Expression.read (fuel + 1)) ([l, l'] ++ rest) =
      ((Expression.read (fuel + 1) .factor) >>= fun u => return .unary .minus u) (l' :: rest) := by
    rw [factor, bind_ok hnext]
    rfl
  rw [hsign, bind_ok hnumber]
  rfl

theorem keyword {w : String} (hn : operandLevel ≤ n) (hw : (w, c) ∈ keywords)
    (hl : l.token = .word w) : Says n [l] (.constant c) := by
  have htable : ∀ e ∈ keywords, starts (some (.word e.1)) = true ∧
      ∀ w ∈ ["lambda", "await", "not"], e.1 ≠ w := by decide
  obtain ⟨hstarts, hword⟩ := htable _ hw
  refine single (by rw [hl]; exact hstarts) (fun w hw heq => ?_) (by simp [hl]) hn rfl
    fun self rest _ => ?_
  · exact hword w hw (Token.word.inj (hl.symm.trans heq))
  · have hnext : next? (l :: rest) = .ok (some (.word w), l :: rest) := by
      rw [← hl]
      rfl
    rw [atom, bind_ok (line_eq _), bind_ok hnext]
    simp only [keywords, List.mem_cons, Prod.mk.injEq, List.not_mem_nil, or_false] at hw
    rcases hw with ⟨rfl, rfl⟩ | ⟨rfl, rfl⟩ | ⟨rfl, rfl⟩ <;> rfl

def quoteStep (qs : List Quote) : Reader (Option (List Quote)) := do
  match ← next? with
  | some (.quote q) => advance; return some (qs ++ [q])
  | _ => return none

theorem quotes_eq : quotes = loop quoteStep [] := rfl

theorem quotes_single {q : Quote} (hl : l.token = .quote q) (hrest : Ends k rest) :
    quotes (l :: rest) = .ok ([q], rest) := by
  have hquote : isQuote (token? rest) = false :=
    hrest.token (P := fun u => isQuote u = false) rfl fun e he _ => by
      have htable : ∀ e ∈ enders, isQuote (some e.1) = false := by decide
      exact htable e he
  have hnext : next? (l :: rest) = .ok (some (.quote q), l :: rest) := by
    rw [← hl]
    rfl
  have hfirst : quoteStep [] (l :: rest) = .ok (some [q], rest) := by
    rw [quoteStep, bind_ok hnext]
    rfl
  have hlast : quoteStep [q] rest = .ok (none, rest) := by
    rw [quoteStep, bind_ok (next?_eq _)]
    show _ = (pure none : Reader (Option (List Quote))) rest
    refine congrFun ?_ rest
    split
    next h => simp [h, isQuote] at hquote
    next => rfl
  rw [quotes_eq, loop, bind_ok (get_eq _), List.length_cons, iterate, bind_ok hfirst]
  exact iterate_stop hlast _

/-- A plain text that stands alone. -/
theorem text {body cs : List Char} (hn : operandLevel ≤ n)
    (hl : l.token = .quote ⟨false, false, false, body⟩)
    (hbody : Literal.unescape? body = some cs) :
    Says n [l] (.constant (.text (String.ofList cs))) :=
  single (by rw [hl]; rfl) (by simp [hl]) (by simp [hl]) hn rfl fun self rest hrest => by
    have hnext : next? (l :: rest) =
        .ok (some (.quote ⟨false, false, false, body⟩), l :: rest) := by
      rw [← hl]
      rfl
    rw [atom, bind_ok (line_eq _), bind_ok hnext]
    dsimp only
    rw [bind_ok (quotes_single hl hrest), textOf]
    simp [hbody, Literal.text?]
    rfl

section Paths

theorem trailer_name (self : Goal → Reader Term) {w : String} (hl : l.token = .symbol ".")
    (hl' : l'.token = .word w) (hw : isReserved w = false) :
    trailer self t (l :: l' :: rest) = .ok (some (.access t (Text.normalize w)), rest) := by
  have hnext : next? (l :: l' :: rest) = .ok (some (.symbol "."), l :: l' :: rest) := by
    rw [← hl]
    rfl
  have hread : trailer self t (l :: l' :: rest) =
      (Reader.name >>= fun name => return some (.access t name)) (l' :: rest) := by
    rw [trailer, bind_ok hnext]
    rfl
  rw [hread, bind_ok (name_of_atName hl' hw)]
  rfl

variable {names : List String}

theorem iterate_dotted (hnames : ∀ name ∈ names, isReserved name = false)
    (hls : ls.map Lexeme.token = dotted names) (hrest : Ends k rest)
    (hfuel : ls.length ≤ fuel) :
    iterate (trailer self) fuel t (ls ++ rest) =
      .ok ((names.map Text.normalize).foldl .access t, rest) := by
  induction names generalizing ls t fuel with
  | nil =>
    obtain rfl := List.map_eq_nil_iff.mp hls
    exact iterate_stop (trailer_ends self t hrest) fuel
  | cons name names ih =>
    obtain ⟨hname, hnames⟩ := List.forall_mem_cons.mp hnames
    obtain ⟨l, ls, rfl, hl, hls⟩ := List.map_eq_cons_iff.mp hls
    obtain ⟨l', ls, rfl, hl', hls⟩ := List.map_eq_cons_iff.mp hls
    simp only [List.length_cons] at hfuel
    obtain ⟨fuel, rfl⟩ := Nat.exists_eq_add_of_le' (show 1 ≤ fuel by omega)
    rw [List.cons_append, List.cons_append, iterate, bind_ok (trailer_name self hl hl' hname)]
    exact ih hnames hls (by omega)

theorem isStarred_foldl (h : t.isStarred = false) :
    (names.foldl Term.access t).isStarred = false := by
  induction names generalizing t with
  | nil => exact h
  | cons name names ih => exact ih rfl

/-- A name and the names that are read of it. -/
theorem path {w : String} (hn : operandLevel ≤ n) (hl : l.token = .word w)
    (hw : isReserved w = false) (hnames : ∀ name ∈ names, isReserved name = false)
    (hls : ls.map Lexeme.token = dotted names) :
    Says n (l :: ls) ((names.map Text.normalize).foldl .access (.name (Text.normalize w))) := by
  have hopens {rest : List Lexeme} : Opens n (l :: rest) :=
    opens_of_atName ⟨w, congrArg some hl, hw⟩
  refine operand hn hopens ?_ (isStarred_foldl rfl) fun fuel rest _ hrest => ?_
  · have hdotted : ∀ u ∈ dotted names, u ≠ .symbol ":=" := by
      intro u hu
      simp only [dotted, List.mem_flatMap, List.mem_cons, List.not_mem_nil, or_false] at hu
      obtain ⟨name, -, rfl | rfl⟩ := hu <;> simp
    rw [List.forall_mem_cons]
    exact ⟨by simp [hl], fun l' hl' => hdotted _ (hls ▸ List.mem_map_of_mem hl')⟩
  · refine factor_primary hopens (fun s hs => ?_) ?_ hrest
    · cases hl.symm.trans (Option.some.inj hs)
    · rw [List.cons_append, primary_eq, bind_ok (atom_name _ hl hw)]
      exact iterate_dotted hnames hls hrest (by simp)

end Paths

/-- What follows an opening parenthesis is an expression and the closing one. -/
theorem parenthesized_ok (hopens : Opens n (ls ++ l :: rest))
    (hassignment : token? (ls ++ l :: rest).tail ≠ some (.symbol ":="))
    (h : self .expression (ls ++ l :: rest) = .ok (t, l :: rest)) (hl : l.token = .symbol ")")
    (hstarred : t.isStarred = false) : parenthesized self (ls ++ l :: rest) = .ok (t, rest) := by
  have hends : Ends 0 (l :: rest) := ends_of_token (by decide) hl
  have hclose : optionalSymbol ")" (ls ++ l :: rest) = .ok (false, ls ++ l :: rest) :=
    optional_of_ne (hopens.ne (by decide))
  have hyield : atWord "yield" (ls ++ l :: rest) = .ok (false, ls ++ l :: rest) :=
    atToken_of_ne (hopens.ne (by decide))
  have hstar : atSymbol "*" (ls ++ l :: rest) = .ok (false, ls ++ l :: rest) :=
    atToken_of_ne (hopens.ne (by decide))
  have hitem : displayItem self (ls ++ l :: rest) = .ok (t, l :: rest) := by
    rw [displayItem, starOr, bind_ok hstar, if_neg Bool.false_ne_true]
    exact (named_passes self hassignment).ok h hends
  have hnoClause : atClause (l :: rest) = .ok (false, l :: rest) := by
    have hfor : atWord "for" (l :: rest) = .ok (false, l :: rest) :=
      atToken_of_ne (hends.ne (by decide))
    have hasync : atWord "async" (l :: rest) = .ok (false, l :: rest) :=
      atToken_of_ne (hends.ne (by decide))
    rw [atClause, bind_ok hfor, bind_ok hasync]
    rfl
  have hat : atSymbol ")" (l :: rest) = .ok (token? (l :: rest) == some (.symbol ")"), l :: rest) :=
    atToken_eq _ _
  have hsymbol : Reader.symbol ")" (l :: rest) = .ok ((), rest) := token_of_eq (congrArg some hl)
  rw [parenthesized, bind_ok hclose, if_neg Bool.false_ne_true, bind_ok hyield,
    if_neg Bool.false_ne_true, bind_ok (line_eq _), bind_ok hitem, bind_ok hat,
    hstarred, Bool.false_and, if_neg Bool.false_ne_true, restOfDisplay, bind_ok hnoClause,
    Bool.false_and, if_neg Bool.false_ne_true, bind_ok (get_eq _),
    bind_ok (moreItems_ends hends _)]
  exact bind_ok hsymbol

theorem enclosed (hn : operandLevel ≤ n) (hl : l.token = .symbol "(") (h : Says n' ls t)
    (hn' : 1 ≤ n') (hl' : l'.token = .symbol ")") : Says n (l :: (ls ++ [l'])) t := by
  have hopening {rest : List Lexeme} : token? (l :: rest) = some (.symbol "(") := congrArg some hl
  have hopens {rest : List Lexeme} : Opens n (l :: rest) :=
    ⟨⟨_, hopening, rfl⟩, by simp [hopening], by simp [hopening], by simp [hopening]⟩
  refine operand hn hopens ?_ h.not_starred fun fuel rest hfuel hrest => ?_
  · rw [List.forall_mem_cons, List.forall_mem_append, List.forall_mem_singleton]
    exact ⟨by simp [hl], h.no_assignment, by simp [hl']⟩
  · simp only [List.length_cons, List.length_append, List.length_nil] at hfuel
    obtain ⟨fuel, rfl⟩ := Nat.exists_eq_add_of_le' (show 3 ≤ fuel by omega)
    have hread : Expression.read (fuel + 3) .expression (ls ++ l' :: rest) = .ok (t, l' :: rest) :=
      h.read (k := 1) hn' (by omega) ((ends_of_token (t := .symbol ")") (k := 0) (by decide)
        hl').mono (by decide))
    have hassignment : token? (ls ++ l' :: rest).tail ≠ some (.symbol ":=") :=
      h.tail_ne (by simp [hl'])
    have hparenthesized := parenthesized_ok (h.opens.append (l' :: rest) id) hassignment hread hl'
      h.not_starred
    have hnext : next? (l :: (ls ++ l' :: rest)) =
        .ok (some (.symbol "("), l :: (ls ++ l' :: rest)) := by
      rw [← hl]
      rfl
    have hatom : atom (Expression.read (fuel + 3)) (l :: (ls ++ l' :: rest)) = .ok (t, rest) := by
      rw [← hparenthesized, atom, bind_ok (line_eq _), bind_ok hnext]
      rfl
    have hwhole : l :: (ls ++ [l']) ++ rest = l :: (ls ++ l' :: rest) := by simp
    rw [hwhole]
    refine factor_primary hopens (fun s hs => ?_) (primary_atom _ hatom hrest) hrest
    obtain rfl := Token.symbol.inj (Option.some.inj (hopening.symm.trans hs))
    rfl

end Operands

end Says

end Expression

/-- A text whose tokens are an expression is read as what they say. -/
theorem readExpression?_eq_some {source : String} {c : Char} {cs : List Char} {ts : List Token}
    {n : Nat} {t : Term} (hsource : source.toList = c :: cs) (hc : c ∉ Scanner.special)
    (hline : '\r' ∉ source.toList) (hscans : Scanner.Scans .start (c :: cs) .start [] ts)
    (hn : 1 ≤ n) (hmeans : ∀ ls, ls.map Lexeme.token = ts → Expression.Says n ls t) :
    readExpression? source = some t := by
  have htokens := hscans.tokens_whole hc
  obtain ⟨ls, rest, hlexemes, hls, hrest⟩ := List.map_eq_append_iff.mp htokens
  obtain ⟨l, rest', rfl, hl, hnil⟩ := List.map_eq_cons_iff.mp hrest
  obtain rfl := List.map_eq_nil_iff.mp hnil
  have hlength : 3 * ls.length ≤ 3 * source.length := by
    have hle := hscans.length
    rw [← hls, List.length_map, ← hsource, String.length_toList] at hle
    simp only [List.length_nil] at hle
    omega
  have hends : Reader.Ends 1 [l] :=
    (Reader.ends_of_token (k := 0) (by decide) hl).mono (Nat.zero_le 1)
  have hread : Expression.read (3 * source.length + 3) .expression (ls ++ [l]) = .ok (t, [l]) :=
    (hmeans ls hls).read (k := 1) hn hlength hends
  rw [readExpression?_eq, unifyLineEnds_eq_self hline, hsource, hlexemes,
    wholeExpression_ok hread hl]

end ViewModel.Source
