import ViewModel.Target.Printed

/-!
How the words of a printed expression are read. A grammar gives the operators of a target their
levels; a row of words has at most one reading.
-/

namespace ViewModel

/-- What a row of words says. `chained` continues a comparison with its right operand, where a
target has such chains. -/
inductive Phrase
  | literal (value : Scalar)
  | path (accesses : List (Bool × String))
  | negated (operand : Phrase)
  | joined (op : String) (left right : Phrase)
  | chained (op : String) (left right : Phrase)
  | conditional (first second third : Phrase)
  deriving DecidableEq, Inhabited

/-- The operators of a target. A conditional has its parts before, between and after two marks,
the middle one of them of level `inner` at least; `chains` says at which levels an operator
continues the comparison to its left. -/
structure Grammar where
  operators : List (String × Nat)
  chains : Nat → Bool
  negation : String
  negationLevel : Nat
  opener : String
  middle : String
  inner : Nat
  operator_bounds : ∀ e ∈ operators,
    Dialect.conditionalLevel < e.2 ∧ e.2 < Dialect.closest ∧ e.2 ≠ negationLevel
  negation_bounds : Dialect.conditionalLevel < negationLevel ∧ negationLevel < Dialect.closest
  opener_level : operators.lookup opener = none
  middle_level : operators.lookup middle = none
  opener_ne_middle : opener ≠ middle

namespace Scalar

/-- The floats that have a literal in every target. -/
def isFinite : Scalar → Bool
  | float x => x.isFinite
  | _ => true

end Scalar

namespace Grammar

def level (g : Grammar) (op : String) : Option Nat := g.operators.lookup op

theorem mem_operators (g : Grammar) {op : String} {k : Nat} (h : g.level op = some k) :
    (op, k) ∈ g.operators := by
  obtain ⟨before, after, heq, -⟩ := List.lookup_eq_some_iff.mp h
  simp [heq]

theorem level_bounds (g : Grammar) {op : String} {k : Nat} (h : g.level op = some k) :
    Dialect.conditionalLevel < k ∧ k < Dialect.closest ∧ k ≠ g.negationLevel :=
  g.operator_bounds _ (g.mem_operators h)

def join (g : Grammar) (op : String) (k n : Nat) (left right : Phrase) : Phrase :=
  if g.chains k && n == k then .chained op left right else .joined op left right

/-- `Reads g n ps s`: the words `ps` are the phrase `s`, which binds as closely as the level `n`
says. Operators of one level join from the left. -/
inductive Reads (g : Grammar) : Nat → List Piece → Phrase → Prop
  | literal {s : Scalar} (h : s.isFinite = true) :
      Reads g Dialect.closest [.literal s] (.literal s)
  | path (accesses : List (Bool × String)) :
      Reads g Dialect.closest (.self :: accesses.map fun a => .access a.1 a.2) (.path accesses)
  | enclosed {n : Nat} {ps : List Piece} {s : Phrase} (h : Reads g n ps s) :
      Reads g Dialect.closest (.opening :: (ps ++ [.closing])) s
  | negated {n : Nat} {ps : List Piece} {s : Phrase} (hn : g.negationLevel ≤ n)
      (h : Reads g n ps s) :
      Reads g g.negationLevel (.before g.negation :: ps) (.negated s)
  | joined {op : String} {k n n' : Nat} {ps qs : List Piece} {s t : Phrase}
      (hop : g.level op = some k) (hn : k ≤ n) (left : Reads g n ps s) (hn' : k < n')
      (right : Reads g n' qs t) : Reads g k (ps ++ .between op :: qs) (g.join op k n s t)
  | conditional {n n' n'' : Nat} {ps qs rs : List Piece} {s t u : Phrase}
      (hn : Dialect.conditionalLevel < n) (first : Reads g n ps s) (hn' : g.inner ≤ n')
      (second : Reads g n' qs t) (third : Reads g n'' rs u) :
      Reads g Dialect.conditionalLevel
        (ps ++ .between g.opener :: (qs ++ .between g.middle :: rs)) (.conditional s t u)

variable {g : Grammar}

/-- The level of an operator; that of conditionals for their marks. -/
def rank (g : Grammar) (op : String) : Nat := (g.level op).getD Dialect.conditionalLevel

/-- How many enclosures or conditionals a word opens. -/
def opens (g : Grammar) : Piece → Int
  | .opening => 1
  | .closing => -1
  | .between op => if op = g.opener then 1 else if op = g.middle then -1 else 0
  | _ => 0

/-- How many enclosures or conditionals are open after some words. -/
def depth (g : Grammar) : List Piece → Int
  | [] => 0
  | p :: ps => g.opens p + g.depth ps

@[simp] theorem depth_nil : g.depth [] = 0 := rfl

@[simp] theorem depth_cons (p : Piece) (ps : List Piece) :
    g.depth (p :: ps) = g.opens p + g.depth ps := rfl

@[simp] theorem depth_append (ps qs : List Piece) :
    g.depth (ps ++ qs) = g.depth ps + g.depth qs := by
  induction ps with
  | nil => simp
  | cons p ps ih => simp [ih, Int.add_assoc]

theorem depth_nonneg_of_opens {ps : List Piece} (h : ∀ p ∈ ps, 0 ≤ g.opens p) : 0 ≤ g.depth ps := by
  induction ps with
  | nil => exact Int.le_refl _
  | cons p ps ih =>
    have hp := h p List.mem_cons_self
    have hps := ih fun q hq => h q (List.mem_cons_of_mem _ hq)
    rw [depth_cons]
    omega

theorem opens_operator {op : String} {k : Nat} (h : g.level op = some k) :
    g.opens (.between op) = 0 := by
  have hopener : op ≠ g.opener := fun heq => by simp [heq, level, g.opener_level] at h
  have hmiddle : op ≠ g.middle := fun heq => by simp [heq, level, g.middle_level] at h
  simp [opens, hopener, hmiddle]

theorem opens_opener : g.opens (.between g.opener) = 1 := by simp [opens]

theorem opens_middle : g.opens (.between g.middle) = -1 := by
  simp [opens, g.opener_ne_middle.symm]

theorem rank_operator {op : String} {k : Nat} (h : g.level op = some k) : g.rank op = k := by
  simp [rank, h]

theorem rank_opener : g.rank g.opener = Dialect.conditionalLevel := by
  simp [rank, level, g.opener_level]

theorem conditionalLevel_le_rank (op : String) : Dialect.conditionalLevel ≤ g.rank op := by
  unfold rank
  cases h : g.level op with
  | none => exact Nat.le_refl _
  | some k => exact Nat.le_of_lt (g.level_bounds h).1

namespace Reads

variable {n n' : Nat} {ps qs a b : List Piece} {s s' : Phrase} {op : String}

theorem depth_eq_zero (h : Reads g n ps s) : g.depth ps = 0 := by
  induction h with
  | literal => rfl
  | path accesses =>
    induction accesses with
    | nil => rfl
    | cons a accesses ih => simpa [opens] using ih
  | enclosed _ ih => simp [opens, ih]
  | negated _ _ ih => simp [opens, ih]
  | joined hop _ _ _ _ ihl ihr => simp [opens_operator hop, ihl, ihr]
  | conditional _ _ _ _ _ ih ih' ih'' => simp [opens_opener, opens_middle, ih, ih', ih'']

/-- No enclosure or conditional is closed before it is opened. -/
theorem depth_nonneg (h : Reads g n ps s) (ha : a <+: ps) : 0 ≤ g.depth a := by
  have split {a xs ys : List Piece} (h : a <+: xs ++ ys) :
      a <+: xs ∨ ∃ c, a = xs ++ c ∧ c <+: ys := by
    rcases List.prefix_or_prefix_of_prefix h (List.prefix_append xs ys) with h' | ⟨c, rfl⟩
    · exact .inl h'
    · exact .inr ⟨c, rfl, (List.prefix_append_right_inj xs).mp h⟩
  induction h generalizing a with
  | literal =>
    rcases List.prefix_cons_iff.mp ha with rfl | ⟨c, rfl, hc⟩
    · exact Int.le_refl _
    · simp [List.prefix_nil.mp hc, opens]
  | path accesses =>
    refine depth_nonneg_of_opens fun piece hpiece => ?_
    have hmem := ha.subset hpiece
    simp only [List.mem_cons, List.mem_map] at hmem
    rcases hmem with rfl | ⟨_, _, rfl⟩ <;> exact Int.le_refl _
  | @enclosed _ ps _ h ih =>
    rcases List.prefix_cons_iff.mp ha with rfl | ⟨c, rfl, hc⟩
    · exact Int.le_refl _
    rcases split hc with hc | ⟨b, rfl, hb⟩
    · have hdepth := ih hc
      simp [opens]
      omega
    · have hdepth := h.depth_eq_zero
      rcases List.prefix_cons_iff.mp hb with rfl | ⟨_, rfl, hnil⟩
      · simp [opens, hdepth]
      · simp [List.prefix_nil.mp hnil, opens, hdepth]
  | negated _ _ ih =>
    rcases List.prefix_cons_iff.mp ha with rfl | ⟨c, rfl, hc⟩
    · exact Int.le_refl _
    · simpa [opens] using ih hc
  | joined hop _ left _ _ ihl ihr =>
    rcases split ha with ha | ⟨c, rfl, hc⟩
    · exact ihl ha
    rcases List.prefix_cons_iff.mp hc with rfl | ⟨b, rfl, hb⟩
    · simp [left.depth_eq_zero]
    · simpa [left.depth_eq_zero, opens_operator hop] using ihr hb
  | conditional _ first _ second _ ih ih' ih'' =>
    rcases split ha with ha | ⟨c, rfl, hc⟩
    · exact ih ha
    rcases List.prefix_cons_iff.mp hc with rfl | ⟨b, rfl, hb⟩
    · simp [first.depth_eq_zero]
    rcases split hb with hb | ⟨d, rfl, hd⟩
    · have hdepth := ih' hb
      simp [first.depth_eq_zero, opens_opener]
      omega
    rcases List.prefix_cons_iff.mp hd with rfl | ⟨e, rfl, he⟩
    · simp [first.depth_eq_zero, second.depth_eq_zero, opens_opener]
    · have hdepth := ih'' he
      simp [first.depth_eq_zero, second.depth_eq_zero, opens_opener, opens_middle]
      omega

theorem level_bounds (h : Reads g n ps s) :
    Dialect.conditionalLevel ≤ n ∧ n ≤ Dialect.closest := by
  cases h with
  | literal | path | enclosed => decide
  | negated => exact ⟨Nat.le_of_lt g.negation_bounds.1, Nat.le_of_lt g.negation_bounds.2⟩
  | joined hop =>
    obtain ⟨hlow, hhigh, -⟩ := g.level_bounds hop
    exact ⟨Nat.le_of_lt hlow, Nat.le_of_lt hhigh⟩
  | conditional => decide

theorem ne_nil (h : Reads g n ps s) : ps ≠ [] := by
  cases h <;> simp

/-- No operator stands outside all enclosures in an enclosed phrase. -/
theorem depth_pos_of_enclosed (h : Reads g n ps s)
    (heq : .opening :: (ps ++ [.closing]) = a ++ .between op :: b) : 0 < g.depth a := by
  cases a with
  | nil => simp at heq
  | cons p c =>
    rw [List.cons_append, List.cons.injEq] at heq
    obtain ⟨rfl, heq⟩ := heq
    have hc : c <+: ps := by
      rcases List.append_eq_append_iff.mp heq with ⟨d, rfl, hd⟩ | ⟨d, rfl, -⟩
      · cases d <;> simp at hd
      · exact List.prefix_append _ _
    have hdepth := h.depth_nonneg hc
    simp [opens]
    omega

/-- An operator outside all enclosures binds no more closely than the phrase. -/
theorem le_rank (h : Reads g n ps s) (heq : ps = a ++ .between op :: b)
    (hdepth : g.depth a = 0) : n ≤ g.rank op := by
  induction h generalizing a b with
  | @literal s =>
    have hmem : Piece.between op ∈ [Piece.literal s] := by simp [heq]
    simp at hmem
  | path accesses =>
    have hmem : Piece.between op ∈
        Piece.self :: accesses.map fun a => Piece.access a.1 a.2 := by simp [heq]
    simp at hmem
  | enclosed h =>
    have hpos := h.depth_pos_of_enclosed heq
    omega
  | negated hn _ ih =>
    cases a with
    | nil => simp at heq
    | cons p c =>
      rw [List.cons_append, List.cons.injEq] at heq
      obtain ⟨rfl, heq⟩ := heq
      exact Nat.le_trans hn (ih heq (by simpa [opens] using hdepth))
  | joined hop hn left hn' right ihl ihr =>
    rcases List.append_eq_append_iff.mp heq with ⟨c, rfl, hc⟩ | ⟨c, rfl, hc⟩
    · cases c with
      | nil =>
        obtain rfl := Piece.between.inj (List.cons.inj hc).1
        exact Nat.le_of_eq (rank_operator hop).symm
      | cons p c =>
        rw [List.cons_append, List.cons.injEq] at hc
        obtain ⟨rfl, hc⟩ := hc
        have hright := ihr hc (by simpa [left.depth_eq_zero, opens_operator hop] using hdepth)
        omega
    · cases c with
      | nil =>
        obtain rfl := Piece.between.inj (List.cons.inj hc).1
        exact Nat.le_of_eq (rank_operator hop).symm
      | cons p c =>
        rw [List.cons_append, List.cons.injEq] at hc
        obtain ⟨rfl, hc⟩ := hc
        exact Nat.le_trans hn (ihl rfl hdepth)
  | conditional => exact conditionalLevel_le_rank op

theorem le_negationLevel (h : Reads g n ps s) {word : String} (heq : ps = .before word :: qs) :
    n ≤ g.negationLevel := by
  induction h generalizing qs with
  | literal | path | enclosed => simp at heq
  | negated => exact Nat.le_refl _
  | @joined _ _ _ _ ps _ _ _ _ hn left _ _ ihl =>
    cases ps with
    | nil => exact absurd rfl left.ne_nil
    | cons p ps => exact Nat.le_trans hn (ihl (congrArg (· :: ps) (List.cons.inj heq).1))
  | conditional => exact Nat.le_of_lt g.negation_bounds.1

/-- The word that binds least decides the level of every reading. -/
theorem level_le (h : Reads g n ps s) (h' : Reads g n' ps s') : n' ≤ n := by
  cases h with
  | literal | path | enclosed => exact h'.level_bounds.2
  | negated => exact h'.le_negationLevel rfl
  | joined hop _ left => exact rank_operator hop ▸ h'.le_rank rfl left.depth_eq_zero
  | conditional _ first => exact rank_opener (g := g) ▸ h'.le_rank rfl first.depth_eq_zero

/-- Two ways to split words at an operator are the same where the operator of neither can stand
outside all enclosures in a part of the other. -/
theorem split_unique {ps ps' qs qs' : List Piece} {op op' : String}
    (heq : ps ++ .between op :: qs = ps' ++ .between op' :: qs')
    (hleft : ∀ c, ps' = ps ++ .between op :: c → qs = c ++ .between op' :: qs' → False)
    (hright : ∀ c, ps = ps' ++ .between op' :: c → qs' = c ++ .between op :: qs → False) :
    ps = ps' ∧ op = op' ∧ qs = qs' := by
  rcases List.append_eq_append_iff.mp heq with ⟨c, hps, hqs⟩ | ⟨c, hps, hqs⟩
  · cases c with
    | nil =>
      obtain ⟨hop, rfl⟩ := List.cons.inj hqs
      exact ⟨by simpa using hps.symm, Piece.between.inj hop, rfl⟩
    | cons x c =>
      obtain ⟨rfl, hrest⟩ := List.cons.inj hqs
      exact (hleft c hps hrest).elim
  · cases c with
    | nil =>
      obtain ⟨hop, rfl⟩ := List.cons.inj hqs
      exact ⟨by simpa using hps, (Piece.between.inj hop).symm, rfl⟩
    | cons x c =>
      obtain ⟨rfl, hrest⟩ := List.cons.inj hqs
      exact (hright c hps hrest).elim

theorem joined_unique {k : Nat} {m m' l l' : Nat} {ps ps' qs qs' : List Piece} {op op' : String}
    {s s' t t' : Phrase} (hop : g.level op = some k) (hop' : g.level op' = some k)
    (left : Reads g m ps s) (left' : Reads g m' ps' s') (hl : k < l) (hl' : k < l')
    (right : Reads g l qs t) (right' : Reads g l' qs' t')
    (heq : ps ++ .between op :: qs = ps' ++ .between op' :: qs') :
    ps = ps' ∧ op = op' ∧ qs = qs' := by
  refine split_unique heq (fun c hps hqs => ?_) (fun c hps hqs => ?_)
  · have hdepth := left'.depth_eq_zero
    rw [hps, depth_append, depth_cons, left.depth_eq_zero, opens_operator hop] at hdepth
    have hrank := right.le_rank hqs (by omega)
    rw [rank_operator hop'] at hrank
    omega
  · have hdepth := left.depth_eq_zero
    rw [hps, depth_append, depth_cons, left'.depth_eq_zero, opens_operator hop'] at hdepth
    have hrank := right'.le_rank hqs (by omega)
    rw [rank_operator hop] at hrank
    omega

theorem conditional_unique {m m' l l' : Nat} {ps ps' qs qs' rs rs' : List Piece}
    {s s' t t' : Phrase} (hm : Dialect.conditionalLevel < m) (hm' : Dialect.conditionalLevel < m')
    (first : Reads g m ps s) (first' : Reads g m' ps' s') (second : Reads g l qs t)
    (second' : Reads g l' qs' t')
    (heq : ps ++ .between g.opener :: (qs ++ .between g.middle :: rs) =
      ps' ++ .between g.opener :: (qs' ++ .between g.middle :: rs')) :
    ps = ps' ∧ qs = qs' ∧ rs = rs' := by
  have opener {m m' : Nat} {ps ps' c : List Piece} {s s' : Phrase}
      (hm' : Dialect.conditionalLevel < m') (first : Reads g m ps s)
      (first' : Reads g m' ps' s') (hps : ps' = ps ++ .between g.opener :: c) : False := by
    have hrank := first'.le_rank hps first.depth_eq_zero
    rw [rank_opener] at hrank
    omega
  have middle {l l' : Nat} {qs qs' c : List Piece} {t t' : Phrase} (second : Reads g l qs t)
      (second' : Reads g l' qs' t') (hqs : qs' = qs ++ .between g.middle :: c) : False := by
    have hprefix : qs ++ [.between g.middle] <+: qs' := ⟨c, by simp [hqs]⟩
    have hdepth := second'.depth_nonneg hprefix
    simp [second.depth_eq_zero, opens_middle] at hdepth
  obtain ⟨hps, -, hrest⟩ := split_unique heq (fun c hps _ => opener hm' first first' hps)
    (fun c hps _ => opener hm first' first hps)
  obtain ⟨hqs, -, hrs⟩ := split_unique hrest (fun c hqs _ => middle second second' hqs)
    (fun c hqs _ => middle second' second hqs)
  exact ⟨hps, hqs, hrs⟩

theorem level_unique (h : Reads g n ps s) (h' : Reads g n' ps s') : n' = n :=
  Nat.le_antisymm (h.level_le h') (h'.level_le h)

/-- Words are read in one way at most. -/
theorem unique (h : Reads g n ps s) (h' : Reads g n' ps s') : s = s' := by
  rw [h.level_unique h'] at h'
  have hnegation := g.negation_bounds
  have hclosest : Dialect.conditionalLevel < Dialect.closest := by decide
  have hlevel {op : String} {k : Nat} (hop : g.level op = some k) := g.level_bounds hop
  induction h generalizing s' with
  | literal =>
    generalize hps : [Piece.literal _] = ws at h'
    generalize hk : Dialect.closest = k at h'
    cases h' with
    | literal => exact congrArg Phrase.literal (Piece.literal.inj (List.cons.inj hps).1)
    | path | enclosed => simp at hps
    | negated | conditional => omega
    | joined hop => have := hlevel hop; omega
  | path accesses =>
    generalize hps : Piece.self :: _ = ws at h'
    generalize hk : Dialect.closest = k at h'
    cases h' with
    | path accesses' =>
      have hinj (a a' : Bool × String) (h : Piece.access a.1 a.2 = .access a'.1 a'.2) : a = a' :=
        Prod.ext_iff.mpr (Piece.access.inj h)
      exact congrArg Phrase.path ((List.map_inj_right hinj).mp (List.cons.inj hps).2)
    | literal | enclosed => simp at hps
    | negated | conditional => omega
    | joined hop => have := hlevel hop; omega
  | @enclosed _ ps _ h ih =>
    generalize hps : Piece.opening :: (ps ++ [Piece.closing]) = ws at h'
    generalize hk : Dialect.closest = k at h'
    cases h' with
    | @enclosed _ qs _ h' =>
      obtain rfl : ps = qs := by simpa using hps
      exact ih (h.level_unique h' ▸ h')
    | literal | path => simp at hps
    | negated | conditional => omega
    | joined hop => have := hlevel hop; omega
  | @negated _ ps _ _ h ih =>
    generalize hps : Piece.before g.negation :: ps = ws at h'
    generalize hk : g.negationLevel = k at h'
    cases h' with
    | negated _ h' =>
      obtain rfl := (List.cons.inj hps).2
      exact congrArg Phrase.negated (ih (h.level_unique h' ▸ h'))
    | literal | path | enclosed | conditional => omega
    | joined hop => have := hlevel hop; omega
  | @joined op k n l ps qs _ _ hop _ left hl right ihl ihr =>
    have hbounds := hlevel hop
    generalize hps : ps ++ Piece.between op :: qs = ws at h'
    generalize hk : k = k' at h'
    cases h' with
    | joined hop' _ left' hl' right' =>
      subst hk
      obtain ⟨rfl, rfl, rfl⟩ := joined_unique hop hop' left left' hl hl' right right' hps
      obtain rfl := left.level_unique left'
      rw [ihl left', ihr (right.level_unique right' ▸ right')]
    | literal | path | enclosed | negated | conditional => omega
  | @conditional _ _ _ ps qs rs _ _ _ hn first _ second third ih ih' ih'' =>
    generalize hps : ps ++ Piece.between g.opener :: (qs ++ Piece.between g.middle :: rs) = ws at h'
    generalize hk : Dialect.conditionalLevel = k at h'
    cases h' with
    | conditional hn' first' _ second' third' =>
      obtain ⟨rfl, rfl, rfl⟩ := conditional_unique hn hn' first first' second second' hps
      rw [ih (first.level_unique first' ▸ first'), ih' (second.level_unique second' ▸ second'),
        ih'' (third.level_unique third' ▸ third')]
    | literal | path | enclosed | negated => omega
    | joined hop => have := hlevel hop; omega

end Reads

end Grammar

end ViewModel
