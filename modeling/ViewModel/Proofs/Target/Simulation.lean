import ViewModel.Proofs.Target.Machine
import ViewModel.Proofs.Target.Spelling

/-!
A machine that does the right thing on each kind of word gives every well-typed expression the
value that the evaluator gives it.
-/

namespace ViewModel

variable {α : Type} {d : Dialect} {m : Manifest} {c : String} {v : Value}

/-- What a machine has to do on an instance `v` that it sees as `object`. `shows b x y` says that
the value `y` of the machine stands for `x`, which is absent if `b`; constants that are not `exact`
and equalities of operands that are `apart` are left out. -/
structure Simulates (r : Reading d) (M : Machine α) (m : Manifest) (c : String) (v : Value)
    (object : α) (shows : Bool → Value → α → Prop) (exact : Scalar → Prop)
    (apart : Bool → Value → Bool → Value → Prop) : Prop where
  literal : ∀ s, exact s → shows false s.toValue (M.literal s)
  ofBool : ∀ p, shows false (.bool p) (M.ofBool p)
  bool_eq : ∀ b p y, shows b (.bool p) y → y = M.ofBool p
  truth : ∀ p, M.truth? (M.ofBool p) = some p
  member : ∀ {path nullSafe t}, PathType m 0 (.reference c) path nullSafe t →
    ∃ y, M.run object (r.member path nullSafe) = some y ∧
      shows (v.cutShort path) (v.memberPath path) y
  conjunction : d.operator .and = M.conjunction
  disjunction : d.operator .or = M.disjunction
  apart_operators : M.disjunction ≠ M.conjunction
  comparison : ∀ op, op.isLogical = false →
    d.operator op ≠ M.conjunction ∧ d.operator op ≠ M.disjunction
  nullTest_word : ∀ negated,
    d.nullTest negated ≠ M.conjunction ∧ d.nullTest negated ≠ M.disjunction
  nullTest : ∀ {b x y} negated, shows b x y →
    M.compare? (d.nullTest negated) y (M.literal .null) = some (x.isNull != negated)
  equality : ∀ {op a b x x' y y' p p'}, op = .equals ∨ op = .notEquals →
    Typed.checkEquality a b = .ok () → HasTyping m x a → HasTyping m y b → shows p x x' →
    shows p' y y' → ¬ apart p x p' y →
    ∃ q, op.compare x y = .ok q ∧ M.compare? (d.operator op) x' y' = some q
  ordering : ∀ {op x x' y y' p p'}, op.isOrdering = true → x.isNumeric = true →
    y.isNumeric = true → shows p x x' → shows p' y y' →
    ∃ q, op.compare x y = .ok q ∧ M.compare? (d.operator op) x' y' = some q
  conditional : ∀ {s t u x p}, M.run object s = some x → M.truth? x = some p →
    M.run object (r.conditional s t u) = if p then M.run object t else M.run object u

namespace Simulates

variable {r : Reading d} {M : Machine α} {object : α} {shows : Bool → Value → α → Prop}
  {exact : Scalar → Prop} {apart : Bool → Value → Bool → Value → Prop} {e : Expr} {τ : Typing}

/-- A comparison by order of numbers runs to what stands for its result. -/
theorem run_ordering (S : Simulates r M m c v object shows exact apart) {op : BinaryOp}
    {l l' : Expr} (hop : op.isOrdering = true)
    (hl : ∃ x, l.evaluate v = .ok x ∧ x.isNumeric = true)
    (hl' : ∃ x, l'.evaluate v = .ok x ∧ x.isNumeric = true)
    (ih : l.Settled exact apart v → ∃ x y, l.evaluate v = .ok x ∧
      M.run object (r.phrase l) = some y ∧ shows (l.absent v) x y)
    (ih' : l'.Settled exact apart v → ∃ x y, l'.evaluate v = .ok x ∧
      M.run object (r.phrase l') = some y ∧ shows (l'.absent v) x y)
    (hsettled : (Expr.binary op l l').Settled exact apart v) :
    ∃ x y, (Expr.binary op l l').evaluate v = .ok x ∧
      M.run object (r.phrase (.binary op l l')) = some y ∧ shows false x y := by
  have hlogical := BinaryOp.isLogical_of_isOrdering hop
  obtain ⟨x, y, hx, hy, hshows⟩ :=
    ih (hsettled.mono fun s hs => (Expr.mem_reached_comparison hlogical).mpr (.inr (.inl hs)))
  obtain ⟨x', y', hx', hy', hshows'⟩ :=
    ih' (hsettled.mono fun s hs => (Expr.mem_reached_comparison hlogical).mpr (.inr (.inr hs)))
  obtain ⟨z, hz, hnumeric⟩ := hl
  obtain rfl := Except.ok.inj (hx.symm.trans hz)
  obtain ⟨z', hz', hnumeric'⟩ := hl'
  obtain rfl := Except.ok.inj (hx'.symm.trans hz')
  obtain ⟨q, hq, hcompare⟩ := S.ordering hop hnumeric hnumeric' hshows hshows'
  exact ⟨_, _, Expr.evaluate_comparison hlogical hx hx' hq,
    Machine.run_comparison (S.comparison op hlogical) hy hy' hcompare, S.ofBool _⟩

/-- An expression runs to what stands for its value. -/
theorem run (S : Simulates r M m c v object shows exact apart) (h : WellTyped m c e τ)
    (hv : HasType m v (.reference c)) (hsettled : e.Settled exact apart v) :
    ∃ x y, e.evaluate v = .ok x ∧ M.run object (r.phrase e) = some y ∧
      shows (e.absent v) x y := by
  have boolean {e : Expr} {b : Bool} {x : Value} {y : α} (h : WellTyped m c e (.known .boolean))
      (hx : e.evaluate v = .ok x) (hy : shows b x y) :
      ∃ p, e.evaluate v = .ok (.bool p) ∧ y = M.ofBool p := by
    obtain ⟨p, hp⟩ := h.evaluates_boolean hv
    obtain rfl := Except.ok.inj (hx.symm.trans hp)
    exact ⟨p, hp, S.bool_eq _ _ _ hy⟩
  induction h with
  | literal s =>
    exact ⟨_, _, rfl, rfl, S.literal s (hsettled _ (Expr.self_mem_reached v _))⟩
  | member hpath =>
    obtain ⟨y, hy, hshows⟩ := S.member hpath
    exact ⟨_, y, rfl, hy, hshows⟩
  | nullCheck negated _ ih =>
    obtain ⟨x, y, hx, hy, hshows⟩ := ih (hsettled.mono fun s hs => by simp [Expr.reached, hs])
    have hnull : M.run object (.literal .null) = some (M.literal .null) := by simp [Machine.run]
    exact ⟨_, _, Expr.evaluate_nullCheck negated hx,
      Machine.run_comparison (S.nullTest_word negated) hy hnull (S.nullTest negated hshows),
      S.ofBool _⟩
  | not operand ih =>
    obtain ⟨x, y, hx, hy, hshows⟩ := ih (hsettled.mono fun s hs => by simp [Expr.reached, hs])
    obtain ⟨p, hp, rfl⟩ := boolean operand hx hshows
    exact ⟨_, _, Expr.evaluate_not hp, Machine.run_negated hy (S.truth p), S.ofBool _⟩
  | @logical op l r' hop left right ihl ihr =>
    cases op <;> simp [BinaryOp.isLogical] at hop
    · obtain ⟨x, y, hx, hy, hshows⟩ :=
        ihl (hsettled.mono fun s hs => Expr.mem_reached_and.mpr (.inr (.inl hs)))
      obtain ⟨p, hp, rfl⟩ := boolean left hx hshows
      show ∃ x y, _ ∧ M.run object (.joined (d.operator .and) _ _) = some y ∧ _
      rw [S.conjunction]
      cases p with
      | false =>
        exact ⟨_, _, Expr.evaluate_and_false hp, Machine.run_conjunction_false hy (S.truth false),
          S.ofBool _⟩
      | true =>
        obtain ⟨x', y', hx', hy', hshows'⟩ := ihr (hsettled.mono fun s hs =>
          Expr.mem_reached_and.mpr (.inr (.inr ⟨Expr.holds_of_evaluate hp, hs⟩)))
        obtain ⟨q, hq, rfl⟩ := boolean right hx' hshows'
        exact ⟨_, _, Expr.evaluate_and_true hp hq,
          Machine.run_conjunction_true hy (S.truth true) hy' (S.truth q), S.ofBool _⟩
    · obtain ⟨x, y, hx, hy, hshows⟩ :=
        ihl (hsettled.mono fun s hs => Expr.mem_reached_or.mpr (.inr (.inl hs)))
      obtain ⟨p, hp, rfl⟩ := boolean left hx hshows
      show ∃ x y, _ ∧ M.run object (.joined (d.operator .or) _ _) = some y ∧ _
      rw [S.disjunction]
      cases p with
      | true =>
        exact ⟨_, _, Expr.evaluate_or_true hp,
          Machine.run_disjunction_true S.apart_operators hy (S.truth true), S.ofBool _⟩
      | false =>
        obtain ⟨x', y', hx', hy', hshows'⟩ := ihr (hsettled.mono fun s hs =>
          Expr.mem_reached_or.mpr (.inr (.inr ⟨Expr.holds_of_evaluate hp, hs⟩)))
        obtain ⟨q, hq, rfl⟩ := boolean right hx' hshows'
        exact ⟨_, _, Expr.evaluate_or_false hp hq,
          Machine.run_disjunction_false S.apart_operators hy (S.truth false) hy' (S.truth q),
          S.ofBool _⟩
  | @equality op l r' _ _ hop left right hcomparable ihl ihr =>
    have hlogical : op.isLogical = false := by rcases hop with rfl | rfl <;> rfl
    obtain ⟨x, y, hx, hy, hshows⟩ :=
      ihl (hsettled.mono fun s hs => (Expr.mem_reached_comparison hlogical).mpr (.inr (.inl hs)))
    obtain ⟨x', y', hx', hy', hshows'⟩ :=
      ihr (hsettled.mono fun s hs => (Expr.mem_reached_comparison hlogical).mpr (.inr (.inr hs)))
    have hsame := hsettled _ (Expr.self_mem_reached v _) hop x x' hx hx'
    obtain ⟨q, hq, hcompare⟩ := S.equality hop hcomparable (left.typed hv hx)
      (right.typed hv hx') hshows hshows' hsame
    exact ⟨_, _, Expr.evaluate_comparison hlogical hx hx' hq,
      Machine.run_comparison (S.comparison op hlogical) hy hy' hcompare, S.ofBool _⟩
  | ordering hop left right hleft hright ihl ihr =>
    exact S.run_ordering hop (left.numeric hv hleft) (right.numeric hv hright) ihl ihr hsettled
  | @guarded op l r' guard a b hop left right hleft hright hguard test ihl ihr ihguard =>
    obtain ⟨x, y, hx, hy, hshows⟩ :=
      ihguard (hsettled.mono fun s hs => Expr.mem_reached_and.mpr (.inr (.inl hs)))
    obtain ⟨p, hp, rfl⟩ := boolean test hx hshows
    show ∃ x y, _ ∧ M.run object (.joined (d.operator .and) _ _) = some y ∧ _
    rw [S.conjunction]
    cases p with
    | false =>
      exact ⟨_, _, Expr.evaluate_and_false hp, Machine.run_conjunction_false hy (S.truth false),
        S.ofBool _⟩
    | true =>
      obtain ⟨x₁, hx₁, hx₁t⟩ := left.evaluates hv
      obtain ⟨x₂, hx₂, hx₂t⟩ := right.evaluates hv
      obtain ⟨hnumeric, hnumeric'⟩ :=
        WellTyped.numeric_of_guard? hguard hx₁ hx₂ hx₁t hx₂t hleft hright hp
      obtain ⟨x', y', hx', hy', hshows'⟩ := S.run_ordering hop ⟨x₁, hx₁, hnumeric⟩
        ⟨x₂, hx₂, hnumeric'⟩ ihl ihr (hsettled.mono fun s hs =>
          Expr.mem_reached_and.mpr (.inr (.inr ⟨Expr.holds_of_evaluate hp, hs⟩)))
      have hboolean : ∃ q, (Expr.binary op l r').evaluate v = .ok (.bool q) :=
        WellTyped.ordered_boolean hop left right hleft hright hv
      obtain ⟨q, hq⟩ := hboolean
      obtain rfl := Except.ok.inj (hx'.symm.trans hq)
      obtain rfl := S.bool_eq _ _ _ hshows'
      exact ⟨_, _, Expr.evaluate_and_true hp hq,
        Machine.run_conjunction_true hy (S.truth true) hy' (S.truth q), S.ofBool _⟩
  | @ternary test t f _ _ _ condition left right hagree ihc ihl ihr =>
    obtain ⟨x, y, hx, hy, hshows⟩ :=
      ihc (hsettled.mono fun s hs => Expr.mem_reached_ternary.mpr (.inr (.inl hs)))
    obtain ⟨p, hp, rfl⟩ := boolean condition hx hshows
    have hholds := Expr.holds_of_evaluate hp
    have hrun := S.conditional (t := r.phrase t) (u := r.phrase f) hy (S.truth p)
    show ∃ x y, _ ∧ M.run object (r.conditional _ _ _) = some y ∧
      shows (if test.holds v then t.absent v else f.absent v) x y
    rw [hrun, hholds]
    cases p with
    | true =>
      rw [Expr.evaluate_ternary_true hp]
      exact ihl (hsettled.mono fun s hs => Expr.mem_reached_ternary.mpr
        (.inr (.inr (.inl ⟨hholds, hs⟩))))
    | false =>
      rw [Expr.evaluate_ternary_false hp]
      exact ihr (hsettled.mono fun s hs => Expr.mem_reached_ternary.mpr
        (.inr (.inr (.inr ⟨hholds, hs⟩))))

end Simulates

/-- The text that is printed for an expression is split into its words if its names are names in the
text; the words have one reading, and that runs to a value. -/
def Reading.Yields (r : Reading d) (M : Machine α) (object : α) (e : Expr) (y : α) : Prop :=
  d.print e = .ok (Piece.textOf d (d.pieces e)) ∧
    (e.Named → r.words? r.constant? (Piece.textOf d (d.pieces e)) = some (d.pieces e)) ∧
    ∃ s, (∃ n, r.grammar.Reads n (d.pieces e) s) ∧
      (∀ n t, r.grammar.Reads n (d.pieces e) t → t = s) ∧ M.run object s = some y

theorem Reading.yields {r : Reading d} (hspells : r.lexicon.Spells d) {M : Machine α}
    {object y : α} {e : Expr} (hcomplete : e.isComplete = true)
    (hfinite : ∀ s ∈ e.literals, s.isFinite = true)
    (hrun : M.run object (r.phrase e) = some y) : r.Yields M object e y := by
  have hreads := r.reads hcomplete hfinite
  refine ⟨by rw [Dialect.print, if_pos hcomplete], fun hnamed => ?_, r.phrase e, ⟨_, hreads⟩,
    fun n t ht => ht.unique hreads, hrun⟩
  exact r.words?_pieces hspells hnamed hreads

end ViewModel
