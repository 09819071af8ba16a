import ViewModel.Proofs.Expr.Instance

/-!
Well-typed expressions have a value of their type on every instance, conditions are booleans, and
a comparison by order is only reached with numbers.
-/

namespace ViewModel

namespace Value

/-- Whole numbers and doubles; truth values are not numbers here. -/
def isNumeric : Value → Bool
  | int _ | float _ => true
  | _ => false

theorem compare?_of_numeric {v w : Value} (hv : v.isNumeric = true) (hw : w.isNumeric = true)
    (r : Relation) :
    compare? r v w = match v.position?, w.position? with
      | some p, some q => some (r.holds Position.lt p q)
      | _, _ => some false := by
  cases v <;> simp [isNumeric] at hv <;> cases w <;> simp [isNumeric] at hw <;> rfl

theorem isNull_of_isNumeric {v : Value} (h : v.isNumeric = true) : v.isNull = false := by
  cases v <;> first | rfl | cases h

/-- Two numbers can be compared by order. -/
theorem compare?_isSome {v w : Value} (hv : v.isNumeric = true) (hw : w.isNumeric = true)
    (r : Relation) : ∃ b, compare? r v w = some b := by
  rw [compare?_of_numeric hv hw]
  split <;> exact ⟨_, rfl⟩

theorem equal_of_numeric {v w : Value} (hv : v.isNumeric = true) (hw : w.isNumeric = true) :
    v.equal w = match v.position?, w.position? with
      | some p, some q => p == q
      | _, _ => false := by
  cases v <;> simp [isNumeric] at hv <;> cases w <;> simp [isNumeric] at hw <;> rfl

theorem strictEqual_of_numeric {v w : Value} (hv : v.isNumeric = true)
    (hw : w.isNumeric = true) : v.strictEqual w = v.equal w := by
  cases v <;> simp [isNumeric] at hv <;> cases w <;> simp [isNumeric] at hw <;> rfl

theorem strictEqual_bool (a b : Bool) : (bool a).strictEqual (bool b) = (a == b) := by
  cases a <;> cases b <;> decide +kernel

theorem equal_null_left (w : Value) : null.equal w = w.isNull := by
  cases w <;> simp [equal, isNull, position?]

theorem equal_null_right (v : Value) : v.equal null = v.isNull := by
  cases v <;> simp [equal, isNull, position?]

/-- Values that have an order are not null. -/
theorem not_null_of_compare? {v w : Value} {r : Relation} {p : Bool}
    (h : compare? r v w = some p) : v ≠ null ∧ w ≠ null := by
  constructor <;> rintro rfl
  · simp [compare?, isNumber] at h
  · cases v <;> simp [compare?, isNumber] at h

end Value

namespace Typed

/-- Equality is accepted between primitives of one kind, up to null, and between numbers. -/
theorem checkEquality_eq_ok {a b : Typing} (h : checkEquality a b = .ok ()) :
    ∃ j k, a.stripNull = .known (.primitive j) ∧ b.stripNull = .known (.primitive k) ∧
      (j = k ∨ (TypeRef.primitive j).isNumeric = true ∧
        (TypeRef.primitive k).isNumeric = true) := by
  have primitive {t : Typing} (ht : t.isPrimitive = true) : ∃ k, t = .known (.primitive k) := by
    cases t with
    | null => cases ht
    | known t =>
      cases t with
      | primitive k => exact ⟨k, rfl⟩
      | _ => cases ht
  unfold checkEquality at h
  dsimp only at h
  split at h
  · cases h
  next hprimitive =>
  split at h
  · cases h
  next hkind =>
  simp only [Bool.not_eq_true', Bool.and_eq_false_imp, Classical.not_imp,
    Bool.not_eq_false] at hprimitive
  obtain ⟨j, hj⟩ := primitive hprimitive.1
  obtain ⟨k, hk⟩ := primitive hprimitive.2
  refine ⟨j, k, hj, hk, ?_⟩
  rw [hj, hk] at hkind
  by_cases hjk : j = k
  · exact .inl hjk
  · exact .inr (by simpa [hjk, Typing.isNumeric] using hkind)

end Typed

namespace HasTyping

variable {m : Manifest} {v w : Value} {a b t : Typing}

theorem boolean_cases (h : HasTyping m v (.known .boolean)) : ∃ b, v = .bool b :=
  HasType.boolean_cases h

theorem scalar (s : Scalar) : HasTyping m s.toValue s.typing := by
  cases s with
  | null => rfl
  | bool b => exact HasType.bool b
  | int n => exact HasType.int n
  | float x => exact HasType.float x
  | text s => exact HasType.text s

theorem isNumeric (h : HasTyping m v t) (ht : t.isNumeric = true) : v.isNumeric = true := by
  cases t with
  | null => simp [Typing.isNumeric] at ht
  | known t =>
    have hkind : t = .integer ∨ t = .float := by
      simpa [Typing.isNumeric, TypeRef.isNumeric] using ht
    rcases hkind with rfl | rfl <;> cases h <;> rfl

/-- A value of a type that is a number once null is taken away. -/
theorem numeric_cases (h : HasTyping m v t) (ht : t.stripNull.isNumeric = true) :
    (v = .null ∧ t.isNullable = true) ∨ v.isNumeric = true := by
  cases t with
  | null => simp [Typing.stripNull, Typing.isNumeric] at ht
  | known t =>
    cases t with
    | nullable t =>
      rcases HasType.nullable_cases h with rfl | h
      · exact .inl ⟨rfl, rfl⟩
      · exact .inr (isNumeric (t := .known t) h ht)
    | _ => exact .inr (isNumeric h ht)

theorem primitive_cases {k : Primitive} (h : HasTyping m v t)
    (ht : t.stripNull = .known (.primitive k)) : v = .null ∨ HasType m v (.primitive k) := by
  cases t with
  | null => cases ht
  | known t =>
    cases t with
    | nullable t =>
      obtain rfl : t = .primitive k := Typing.known.inj ht
      exact HasType.nullable_cases h
    | _ => exact .inr (Typing.known.inj ht ▸ h)

/-- Operands of an equality that is accepted are constants. -/
theorem exists_scalar (hcomparable : Typed.checkEquality a b = .ok ()) (hv : HasTyping m v a)
    (hw : HasTyping m w b) : (∃ s : Scalar, v = s.toValue) ∧ ∃ s : Scalar, w = s.toValue := by
  have of_primitive {v : Value} {k : Primitive}
      (h : v = .null ∨ HasType m v (.primitive k)) : ∃ s : Scalar, v = s.toValue := by
    rcases h with rfl | h
    · exact ⟨.null, rfl⟩
    · cases h with
      | text s => exact ⟨.text s, rfl⟩
      | bool b => exact ⟨.bool b, rfl⟩
      | int n => exact ⟨.int n, rfl⟩
      | float x => exact ⟨.float x, rfl⟩
  obtain ⟨j, k, hj, hk, -⟩ := Typed.checkEquality_eq_ok hcomparable
  exact ⟨of_primitive (hv.primitive_cases hj), of_primitive (hw.primitive_cases hk)⟩

theorem orNull (h : HasTyping m v t) : HasTyping m v t.orNull := by
  cases t with
  | null => exact h
  | known t => exact HasType.orNull h

theorem null_orNull (t : Typing) : HasTyping m .null t.orNull := by
  cases t with
  | null => rfl
  | known t => exact HasType.null_orNull t

/-- The common type of two branches has the values of both. -/
theorem of_agree (hagree : Typed.agree a b = .ok t) (h : HasTyping m v a ∨ HasTyping m v b) :
    HasTyping m v t := by
  unfold Typed.agree at hagree
  split at hagree
  · next hab =>
    obtain rfl := Except.ok.inj hagree
    exact h.elim id (hab ▸ ·)
  · split at hagree
    · obtain rfl := Except.ok.inj hagree
      rcases h with rfl | h
      · exact null_orNull _
      · exact h.orNull
    · obtain rfl := Except.ok.inj hagree
      rcases h with h | rfl
      · exact h.orNull
      · exact null_orNull _
    · split at hagree
      · next hor =>
        obtain rfl := Except.ok.inj hagree
        rcases h with h | h
        · exact h.orNull
        · exact hor ▸ h.orNull
      · simp at hagree

end HasTyping

namespace Value

variable {m : Manifest} {v w : Value} {a b : Typing}

/-- Values of types that may be tested for equality, none of them null, are truth values or not
together. -/
theorem isBool_eq_of_comparable (hcomparable : Typed.checkEquality a b = .ok ())
    (hv : HasTyping m v a) (hw : HasTyping m w b) : v = null ∨ w = null ∨ v.isBool = w.isBool := by
  obtain ⟨j, k, hj, hk, hkind⟩ := Typed.checkEquality_eq_ok hcomparable
  refine (hv.primitive_cases hj).imp_right fun hv => (hw.primitive_cases hk).imp_right fun hw => ?_
  rcases hkind with rfl | ⟨hj, hk⟩
  · cases hv <;> cases hw <;> rfl
  · cases hv <;> cases hw <;> simp_all [TypeRef.isNumeric, isBool]

/-- Values of types that may be tested for equality are equal as data where they are equal. -/
theorem strictEqual_of_comparable (hcomparable : Typed.checkEquality a b = .ok ())
    (hv : HasTyping m v a) (hw : HasTyping m w b) : v.strictEqual w = v.equal w := by
  rcases isBool_eq_of_comparable hcomparable hv hw with rfl | rfl | hbool
  · rw [strictEqual, equal_null_left]
    cases w <;> rfl
  · rw [strictEqual, equal_null_right]
    cases v <;> rfl
  · simp [strictEqual, hbool]

end Value

namespace Expr

variable {v a b : Value} {e l r : Expr} {op : BinaryOp}

attribute [local simp] evaluate

theorem evaluate_not (h : e.evaluate v = .ok (.bool p)) :
    (not e).evaluate v = .ok (.bool !p) := by
  simp [h, bind, Except.bind, pure, Except.pure, Value.truth]

theorem evaluate_nullCheck (negated : Bool) (h : e.evaluate v = .ok a) :
    (nullCheck e negated).evaluate v = .ok (.bool (a.isNull != negated)) := by
  simp [h, bind, Except.bind, pure, Except.pure]

theorem evaluate_and_false (hl : l.evaluate v = .ok (.bool false)) :
    (binary .and l r).evaluate v = .ok (.bool false) := by
  simp [hl, bind, Except.bind, pure, Except.pure, Value.truth]

theorem evaluate_and_true {p : Bool} (hl : l.evaluate v = .ok (.bool true))
    (hr : r.evaluate v = .ok (.bool p)) : (binary .and l r).evaluate v = .ok (.bool p) := by
  simp [hl, hr, bind, Except.bind, pure, Except.pure, Value.truth]

theorem evaluate_or_true (hl : l.evaluate v = .ok (.bool true)) :
    (binary .or l r).evaluate v = .ok (.bool true) := by
  simp [hl, bind, Except.bind, pure, Except.pure, Value.truth]

theorem evaluate_or_false {p : Bool} (hl : l.evaluate v = .ok (.bool false))
    (hr : r.evaluate v = .ok (.bool p)) : (binary .or l r).evaluate v = .ok (.bool p) := by
  simp [hl, hr, bind, Except.bind, pure, Except.pure, Value.truth]

theorem evaluate_comparison {p : Bool} (hop : op.isLogical = false) (hl : l.evaluate v = .ok a)
    (hr : r.evaluate v = .ok b) (h : op.compare a b = .ok p) :
    (binary op l r).evaluate v = .ok (.bool p) := by
  cases op <;> simp [BinaryOp.isLogical] at hop <;>
    simp [hl, hr, h, bind, Except.bind, pure, Except.pure]

theorem evaluate_ternary_true {c t f : Expr} (hc : c.evaluate v = .ok (.bool true)) :
    (ternary c t f).evaluate v = t.evaluate v := by
  simp [hc, bind, Except.bind, Value.truth]

theorem evaluate_ternary_false {c t f : Expr} (hc : c.evaluate v = .ok (.bool false)) :
    (ternary c t f).evaluate v = f.evaluate v := by
  simp [hc, bind, Except.bind, Value.truth]

end Expr

namespace BinaryOp

variable {v w : Value} {op : BinaryOp}

theorem compare_equality (hop : op = .equals ∨ op = .notEquals) : ∃ p, op.compare v w = .ok p := by
  rcases hop with rfl | rfl <;> exact ⟨_, rfl⟩

theorem compare_null_left (hop : op.isOrdering = true) : op.compare .null w = .ok false := by
  cases op <;> simp [isOrdering] at hop <;> simp [compare, Value.isNull]

theorem compare_null_right (hop : op.isOrdering = true) : op.compare v .null = .ok false := by
  cases op <;> simp [isOrdering] at hop <;> simp [compare, Value.isNull]

theorem compare_of_compare? {p : Bool} (hop : op.isOrdering = true)
    (h : Value.compare? op.relation v w = some p) : op.compare v w = .ok p := by
  obtain ⟨hv, hw⟩ := Value.not_null_of_compare? h
  have hnull : (v.isNull || w.isNull) = false := by
    rw [Value.isNull_eq_false hv, Value.isNull_eq_false hw, Bool.or_false]
  cases op <;> simp [isOrdering] at hop <;> simp [compare, hnull, h]

theorem compare_numeric (hop : op.isOrdering = true) (hv : v.isNumeric = true)
    (hw : w.isNumeric = true) : ∃ p, op.compare v w = .ok p := by
  obtain ⟨p, hp⟩ := Value.compare?_isSome hv hw op.relation
  exact ⟨p, compare_of_compare? hop hp⟩

theorem isLogical_of_isOrdering (hop : op.isOrdering = true) : op.isLogical = false := by
  cases op <;> simp_all [isOrdering, isLogical]

end BinaryOp

namespace WellTyped

variable {m : Manifest} {c : String} {v : Value} {e l r : Expr} {t a b : Typing}

/-- Where the test that no nullable operand is null is true, none of the operands is null. -/
theorem not_null_of_guard? {x y : Value} {guard : Expr}
    (hguard : Typed.guard? (l, a) (r, b) = some guard) (hl : l.evaluate v = .ok x)
    (hr : r.evaluate v = .ok y) (h : guard.evaluate v = .ok (.bool true)) :
    (a.isNullable = true → x ≠ .null) ∧ (b.isNullable = true → y ≠ .null) := by
  have hx := Expr.evaluate_nullCheck true hl
  have hy := Expr.evaluate_nullCheck true hr
  unfold Typed.guard? at hguard
  split at hguard <;> simp only [Option.some.injEq, reduceCtorEq] at hguard <;> subst hguard
  · constructor <;> rintro - rfl
    · rw [Expr.evaluate_and_false hx] at h
      simp at h
    · cases hnull : x.isNull with
      | true =>
        rw [hnull] at hx
        rw [Expr.evaluate_and_false hx] at h
        simp at h
      | false =>
        rw [hnull] at hx
        rw [Expr.evaluate_and_true hx hy] at h
        simp [Value.isNull] at h
  · next ha hb =>
    refine ⟨?_, fun hn => absurd hn (by simp [hb])⟩
    rintro - rfl
    rw [hx] at h
    simp [Value.isNull] at h
  · next ha hb =>
    refine ⟨fun hn => absurd hn (by simp [ha]), ?_⟩
    rintro - rfl
    rw [hy] at h
    simp [Value.isNull] at h

/-- Behind the test that no nullable operand is null, both operands are numbers. -/
theorem numeric_of_guard? {x y : Value} {guard : Expr}
    (hguard : Typed.guard? (l, a) (r, b) = some guard) (hl : l.evaluate v = .ok x)
    (hr : r.evaluate v = .ok y) (hx : HasTyping m x a) (hy : HasTyping m y b)
    (ha : a.stripNull.isNumeric = true) (hb : b.stripNull.isNumeric = true)
    (h : guard.evaluate v = .ok (.bool true)) : x.isNumeric = true ∧ y.isNumeric = true := by
  obtain ⟨hleft, hright⟩ := not_null_of_guard? hguard hl hr h
  constructor
  · exact (hx.numeric_cases ha).resolve_left fun hnull => hleft hnull.2 hnull.1
  · exact (hy.numeric_cases hb).resolve_left fun hnull => hright hnull.2 hnull.1

/-- A well-typed expression has a value of its type on every instance. -/
theorem evaluates (h : WellTyped m c e t) (hv : HasType m v (.reference c)) :
    ∃ w, e.evaluate v = .ok w ∧ HasTyping m w t := by
  induction h with
  | literal s => exact ⟨s.toValue, rfl, .scalar s⟩
  | member hpath => exact ⟨_, rfl, hv.alongPath hpath⟩
  | nullCheck negated _ ih =>
    obtain ⟨w, hw, -⟩ := ih
    exact ⟨_, Expr.evaluate_nullCheck negated hw, HasType.bool _⟩
  | not _ ih =>
    obtain ⟨w, hw, hwt⟩ := ih
    obtain ⟨p, rfl⟩ := hwt.boolean_cases
    exact ⟨_, Expr.evaluate_not hw, HasType.bool _⟩
  | @logical op l r hop _ _ ihl ihr =>
    obtain ⟨x, hx, hxt⟩ := ihl
    obtain ⟨y, hy, hyt⟩ := ihr
    obtain ⟨p, rfl⟩ := hxt.boolean_cases
    obtain ⟨q, rfl⟩ := hyt.boolean_cases
    cases op <;> simp [BinaryOp.isLogical] at hop <;> cases p
    · exact ⟨_, Expr.evaluate_and_false hx, HasType.bool _⟩
    · exact ⟨_, Expr.evaluate_and_true hx hy, HasType.bool _⟩
    · exact ⟨_, Expr.evaluate_or_false hx hy, HasType.bool _⟩
    · exact ⟨_, Expr.evaluate_or_true hx, HasType.bool _⟩
  | @equality op l r a b hop _ _ _ ihl ihr =>
    obtain ⟨x, hx, -⟩ := ihl
    obtain ⟨y, hy, -⟩ := ihr
    obtain ⟨p, hp⟩ := BinaryOp.compare_equality (v := x) (w := y) hop
    have hlogical : op.isLogical = false := by rcases hop with rfl | rfl <;> rfl
    exact ⟨_, Expr.evaluate_comparison hlogical hx hy hp, HasType.bool _⟩
  | ordering hop _ _ hleft hright ihl ihr =>
    obtain ⟨x, hx, hxt⟩ := ihl
    obtain ⟨y, hy, hyt⟩ := ihr
    obtain ⟨p, hp⟩ := BinaryOp.compare_numeric hop (hxt.isNumeric hleft) (hyt.isNumeric hright)
    exact ⟨_, Expr.evaluate_comparison (BinaryOp.isLogical_of_isOrdering hop) hx hy hp,
      HasType.bool _⟩
  | guarded hop _ _ hleft hright hguard _ ihl ihr ihguard =>
    obtain ⟨x, hx, hxt⟩ := ihl
    obtain ⟨y, hy, hyt⟩ := ihr
    obtain ⟨g, hg, hgt⟩ := ihguard
    obtain ⟨p, rfl⟩ := hgt.boolean_cases
    cases p with
    | false => exact ⟨_, Expr.evaluate_and_false hg, HasType.bool _⟩
    | true =>
      obtain ⟨hxn, hyn⟩ := numeric_of_guard? hguard hx hy hxt hyt hleft hright hg
      obtain ⟨q, hq⟩ := BinaryOp.compare_numeric hop hxn hyn
      have hc := Expr.evaluate_comparison (BinaryOp.isLogical_of_isOrdering hop) hx hy hq
      exact ⟨_, Expr.evaluate_and_true hg hc, HasType.bool _⟩
  | ternary _ _ _ hagree ihc ihl ihr =>
    obtain ⟨x, hx, hxt⟩ := ihc
    obtain ⟨p, rfl⟩ := hxt.boolean_cases
    cases p with
    | true =>
      obtain ⟨y, hy, hyt⟩ := ihl
      exact ⟨y, (Expr.evaluate_ternary_true hx).trans hy, .of_agree hagree (.inl hyt)⟩
    | false =>
      obtain ⟨y, hy, hyt⟩ := ihr
      exact ⟨y, (Expr.evaluate_ternary_false hx).trans hy, .of_agree hagree (.inr hyt)⟩

theorem typed {w : Value} (h : WellTyped m c e t) (hv : HasType m v (.reference c))
    (hw : e.evaluate v = .ok w) : HasTyping m w t := by
  obtain ⟨u, hu, hut⟩ := h.evaluates hv
  obtain rfl := Except.ok.inj (hu.symm.trans hw)
  exact hut

theorem numeric (h : WellTyped m c e t) (hv : HasType m v (.reference c))
    (ht : t.isNumeric = true) : ∃ w, e.evaluate v = .ok w ∧ w.isNumeric = true := by
  obtain ⟨w, hw, hwt⟩ := h.evaluates hv
  exact ⟨w, hw, hwt.isNumeric ht⟩

end WellTyped

end ViewModel
