import ViewModel.Proofs.Expr.Sound

/-!
The parts of an expression: those that stand where a truth value is asked for, and those that an
evaluation reaches when it takes only the operands and branches it needs.
-/

namespace ViewModel

namespace Expr

/-- Every operand of a logical operation and every condition, anywhere in the expression. -/
def conditions : Expr → List Expr
  | hole | literal _ | member .. => []
  | nullCheck e _ => e.conditions
  | not e => e :: e.conditions
  | binary op l r => (if op.isLogical then [l, r] else []) ++ l.conditions ++ r.conditions
  | ternary c t f => c :: c.conditions ++ t.conditions ++ f.conditions

/-- Whether an expression has a true value. -/
def holds (v : Value) (e : Expr) : Bool :=
  match e.evaluate v with
  | .ok w => w.truth
  | .error _ => false

/-- Every part of the expression that is evaluated on the way to its value, and itself. -/
def reached (v : Value) : Expr → List Expr
  | hole => [hole]
  | literal s => [literal s]
  | member path nullSafe => [member path nullSafe]
  | nullCheck e negated => nullCheck e negated :: e.reached v
  | not e => not e :: e.reached v
  | binary .and l r =>
      binary .and l r :: l.reached v ++ (if l.holds v then r.reached v else [])
  | binary .or l r =>
      binary .or l r :: l.reached v ++ (if l.holds v then [] else r.reached v)
  | binary op l r => binary op l r :: l.reached v ++ r.reached v
  | ternary c t f =>
      ternary c t f :: c.reached v ++ (if c.holds v then t.reached v else f.reached v)

variable {v : Value} {e l r s : Expr} {op : BinaryOp} {p : Bool}

attribute [local simp] reached

theorem self_mem_reached (v : Value) (e : Expr) : e ∈ e.reached v := by
  cases e with
  | binary op l r => cases op <;> simp
  | _ => simp

theorem holds_of_evaluate (h : e.evaluate v = .ok (.bool p)) : e.holds v = p := by
  simp [holds, h, Value.truth]

theorem mem_conditions_binary :
    s ∈ (binary op l r).conditions ↔
      op.isLogical = true ∧ (s = l ∨ s = r) ∨ s ∈ l.conditions ∨ s ∈ r.conditions := by
  cases h : op.isLogical <;> simp [conditions, h, or_assoc]

theorem mem_reached_and :
    s ∈ (binary .and l r).reached v ↔
      s = binary .and l r ∨ s ∈ l.reached v ∨ l.holds v = true ∧ s ∈ r.reached v := by
  cases h : l.holds v <;> simp [h]

theorem mem_reached_or :
    s ∈ (binary .or l r).reached v ↔
      s = binary .or l r ∨ s ∈ l.reached v ∨ l.holds v = false ∧ s ∈ r.reached v := by
  cases h : l.holds v <;> simp [h]

theorem mem_reached_comparison (hop : op.isLogical = false) :
    s ∈ (binary op l r).reached v ↔
      s = binary op l r ∨ s ∈ l.reached v ∨ s ∈ r.reached v := by
  cases op <;> simp [BinaryOp.isLogical] at hop <;> simp

theorem mem_reached_binary (h : s ∈ (binary op l r).reached v) :
    s = binary op l r ∨ s ∈ l.reached v ∨ s ∈ r.reached v := by
  cases op <;> cases hl : l.holds v <;> simp [hl] at h <;> tauto

theorem mem_reached_ternary {test t f : Expr} :
    s ∈ (ternary test t f).reached v ↔
      s = ternary test t f ∨ s ∈ test.reached v ∨ test.holds v = true ∧ s ∈ t.reached v ∨
        test.holds v = false ∧ s ∈ f.reached v := by
  cases h : test.holds v <;> simp [h]

end Expr

namespace WellTyped

variable {m : Manifest} {c : String} {v : Value} {e : Expr} {t : Typing}

theorem evaluates_boolean (h : WellTyped m c e (.known .boolean))
    (hv : HasType m v (.reference c)) : ∃ p, e.evaluate v = .ok (.bool p) := by
  obtain ⟨w, hw, hwt⟩ := h.evaluates hv
  obtain ⟨p, rfl⟩ := hwt.boolean_cases
  exact ⟨p, hw⟩

/-- A comparison by order has a truth value also where it is not behind its test. -/
theorem ordered_boolean {op : BinaryOp} {l r : Expr} {a b : Typing} (hop : op.isOrdering = true)
    (left : WellTyped m c l a) (right : WellTyped m c r b)
    (ha : a.stripNull.isNumeric = true) (hb : b.stripNull.isNumeric = true)
    (hv : HasType m v (.reference c)) : ∃ p, (Expr.binary op l r).evaluate v = .ok (.bool p) := by
  obtain ⟨x, hx, hxt⟩ := left.evaluates hv
  obtain ⟨y, hy, hyt⟩ := right.evaluates hv
  have hlogical := BinaryOp.isLogical_of_isOrdering hop
  rcases hxt.numeric_cases ha with ⟨rfl, -⟩ | hxn
  · exact ⟨_, Expr.evaluate_comparison hlogical hx hy (BinaryOp.compare_null_left hop)⟩
  rcases hyt.numeric_cases hb with ⟨rfl, -⟩ | hyn
  · exact ⟨_, Expr.evaluate_comparison hlogical hx hy (BinaryOp.compare_null_right hop)⟩
  obtain ⟨p, hp⟩ := BinaryOp.compare_numeric hop hxn hyn
  exact ⟨p, Expr.evaluate_comparison hlogical hx hy hp⟩

/-- Whatever stands where a truth value is asked for has one, also where it is not reached. -/
theorem conditions_boolean (h : WellTyped m c e t) (hv : HasType m v (.reference c)) :
    ∀ s ∈ e.conditions, ∃ p, s.evaluate v = .ok (.bool p) := by
  induction h with
  | literal | member => simp [Expr.conditions]
  | nullCheck _ _ ih => exact ih
  | not operand ih =>
    intro s hs
    rcases List.mem_cons.mp hs with rfl | hs
    · exact operand.evaluates_boolean hv
    · exact ih s hs
  | logical _ left right ihl ihr =>
    intro s hs
    rcases Expr.mem_conditions_binary.mp hs with ⟨-, rfl | rfl⟩ | hs | hs
    · exact left.evaluates_boolean hv
    · exact right.evaluates_boolean hv
    · exact ihl s hs
    · exact ihr s hs
  | equality hop _ _ _ ihl ihr =>
    intro s hs
    rcases Expr.mem_conditions_binary.mp hs with ⟨hlogical, -⟩ | hs | hs
    · rcases hop with rfl | rfl <;> simp [BinaryOp.isLogical] at hlogical
    · exact ihl s hs
    · exact ihr s hs
  | ordering hop _ _ _ _ ihl ihr =>
    intro s hs
    rcases Expr.mem_conditions_binary.mp hs with ⟨hlogical, -⟩ | hs | hs
    · simp [BinaryOp.isLogical_of_isOrdering hop] at hlogical
    · exact ihl s hs
    · exact ihr s hs
  | guarded hop left right hleft hright _ test ihl ihr ihtest =>
    intro s hs
    rcases Expr.mem_conditions_binary.mp hs with ⟨-, rfl | rfl⟩ | hs | hs
    · exact test.evaluates_boolean hv
    · exact ordered_boolean hop left right hleft hright hv
    · exact ihtest s hs
    rcases Expr.mem_conditions_binary.mp hs with ⟨hlogical, -⟩ | hs | hs
    · simp [BinaryOp.isLogical_of_isOrdering hop] at hlogical
    · exact ihl s hs
    · exact ihr s hs
  | ternary condition _ _ _ ihc ihl ihr =>
    intro s hs
    simp only [Expr.conditions, List.mem_append, List.mem_cons] at hs
    rcases hs with ((rfl | hs) | hs) | hs
    · exact condition.evaluates_boolean hv
    · exact ihc s hs
    · exact ihl s hs
    · exact ihr s hs

/-- Every comparison by order that is reached compares two numbers. -/
theorem reached_ordering (h : WellTyped m c e t) (hv : HasType m v (.reference c))
    {op : BinaryOp} {l r : Expr} (hmem : .binary op l r ∈ e.reached v)
    (hordering : op.isOrdering = true) :
    ∃ x y, l.evaluate v = .ok x ∧ r.evaluate v = .ok y ∧ x.isNumeric = true ∧
      y.isNumeric = true := by
  have hlogical := BinaryOp.isLogical_of_isOrdering hordering
  induction h with
  | literal | member => simp [Expr.reached] at hmem
  | nullCheck _ _ ih | not _ ih => exact ih (by simpa [Expr.reached] using hmem)
  | logical hop _ _ ihl ihr =>
    rcases Expr.mem_reached_binary hmem with heq | hmem | hmem
    · obtain ⟨rfl, -, -⟩ := Expr.binary.inj heq
      simp [hop] at hlogical
    · exact ihl hmem
    · exact ihr hmem
  | equality hop _ _ _ ihl ihr =>
    rcases Expr.mem_reached_binary hmem with heq | hmem | hmem
    · obtain ⟨rfl, -, -⟩ := Expr.binary.inj heq
      rcases hop with rfl | rfl <;> simp [BinaryOp.isOrdering] at hordering
    · exact ihl hmem
    · exact ihr hmem
  | ordering hop left right hleft hright ihl ihr =>
    rcases Expr.mem_reached_binary hmem with heq | hmem | hmem
    · obtain ⟨-, rfl, rfl⟩ := Expr.binary.inj heq
      obtain ⟨x, hx, hxt⟩ := left.evaluates hv
      obtain ⟨y, hy, hyt⟩ := right.evaluates hv
      exact ⟨x, y, hx, hy, hxt.isNumeric hleft, hyt.isNumeric hright⟩
    · exact ihl hmem
    · exact ihr hmem
  | guarded hop left right hleft hright hguard test ihl ihr ihtest =>
    rcases Expr.mem_reached_and.mp hmem with heq | hmem | ⟨hholds, hmem⟩
    · obtain ⟨rfl, -, -⟩ := Expr.binary.inj heq
      simp [BinaryOp.isLogical] at hlogical
    · exact ihtest hmem
    rcases Expr.mem_reached_binary hmem with heq | hmem | hmem
    · obtain ⟨-, rfl, rfl⟩ := Expr.binary.inj heq
      obtain ⟨x, hx, hxt⟩ := left.evaluates hv
      obtain ⟨y, hy, hyt⟩ := right.evaluates hv
      obtain ⟨p, hp⟩ := test.evaluates_boolean hv
      obtain rfl : p = true := (Expr.holds_of_evaluate hp).symm.trans hholds
      exact ⟨x, y, hx, hy, numeric_of_guard? hguard hx hy hxt hyt hleft hright hp⟩
    · exact ihl hmem
    · exact ihr hmem
  | ternary _ _ _ _ ihc ihl ihr =>
    rcases Expr.mem_reached_ternary.mp hmem with heq | hmem | ⟨-, hmem⟩ | ⟨-, hmem⟩
    · cases heq
    · exact ihc hmem
    · exact ihl hmem
    · exact ihr hmem

end WellTyped

end ViewModel
