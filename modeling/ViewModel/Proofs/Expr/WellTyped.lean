import ViewModel.Accessor.Typing
import ViewModel.Model.Manifest
import ViewModel.Proofs.Model.Type
import ViewModel.Proofs.Success

/-!
Types of expression trees in the classes of a manifest. Every expression that is compiled is well
typed, and what holds of well-typed expressions holds of all of them.
-/

namespace ViewModel

namespace Typing

def isProper : Typing → Bool
  | null => true
  | known t => t.isProper

/-- What is known to be a type has the property. -/
def Holds (P : TypeRef → Prop) : Typing → Prop
  | null => True
  | known t => P t

theorem Holds.orNull {P : TypeRef → Prop} {t : Typing} (hnull : ∀ t, P t → P t.orNull)
    (h : t.Holds P) : t.orNull.Holds P := by
  cases t with
  | null => trivial
  | known t => exact hnull t h

end Typing

/-- Every instance of the class `c` has a property `name` of type `t`, its own or inherited. -/
def Manifest.HasMember (m : Manifest) (c name : String) (t : TypeRef) : Prop :=
  ∃ d owner p, m.class? c = some d ∧ m.owner? d name = some owner ∧
    owner.property? name = some p ∧ p.type = t ∧ t.isProper = true

/-- `PathType m i t path nullSafe u`: from a value of type `t` the path leads to one of type `u`.
Its first segment has the index `i`; `nullSafe` has the indexes of those whose receiver may be
null. -/
inductive PathType (m : Manifest) : Nat → TypeRef → List String → List Int → TypeRef → Prop
  | nil (i : Nat) (t : TypeRef) : PathType m i t [] [] t
  | strict {i : Nat} {c name : String} {path : List String} {nullSafe : List Int} {t u : TypeRef}
      (member : m.HasMember c name t) (rest : PathType m (i + 1) t path nullSafe u) :
      PathType m i (.reference c) (name :: path) nullSafe u
  | safe {i : Nat} {c name : String} {path : List String} {nullSafe : List Int} {t u : TypeRef}
      (member : m.HasMember c name t) (rest : PathType m (i + 1) t path nullSafe u) :
      PathType m i (.nullable (.reference c)) (name :: path) (i :: nullSafe) u

theorem PathType.mono {m m' : Manifest} {i : Nat} {t u : TypeRef} {path : List String}
    {nullSafe : List Int} (hmember : ∀ c name t, m.HasMember c name t → m'.HasMember c name t)
    (h : PathType m i t path nullSafe u) : PathType m' i t path nullSafe u := by
  induction h with
  | nil => exact .nil _ _
  | strict member _ ih => exact .strict (hmember _ _ _ member) ih
  | safe member _ ih => exact .safe (hmember _ _ _ member) ih

/-- What holds of the types of all members holds at the end of every path. -/
theorem PathType.keeps {m : Manifest} {P : TypeRef → Prop} {i : Nat} {t u : TypeRef}
    {path : List String} {nullSafe : List Int}
    (hmember : ∀ c name t, m.HasMember c name t → P t) (h : PathType m i t path nullSafe u)
    (ht : P t) : P u := by
  induction h with
  | nil => exact ht
  | strict member _ ih | safe member _ ih => exact ih (hmember _ _ _ member)

/-- A path with a receiver that may be null gives a value that may be null. -/
def TypeRef.alongPath (nullSafe : List Int) (t : TypeRef) : TypeRef :=
  if nullSafe.isEmpty then t else t.orNull

def Scalar.typing : Scalar → Typing
  | null => .null
  | bool _ => .known .boolean
  | int _ => .known .integer
  | float _ => .known .float
  | text _ => .known .string

/-- `WellTyped m c e t`: on an instance of the class `c` the expression has the type `t`. A
comparison by order has operands that are never null, or stands behind the test that they are
not. -/
inductive WellTyped (m : Manifest) (c : String) : Expr → Typing → Prop
  | literal (s : Scalar) : WellTyped m c (.literal s) s.typing
  | member {path : List String} {nullSafe : List Int} {t : TypeRef}
      (h : PathType m 0 (.reference c) path nullSafe t) :
      WellTyped m c (.member path nullSafe) (.known (t.alongPath nullSafe))
  | nullCheck {e : Expr} {t : Typing} (negated : Bool) (operand : WellTyped m c e t) :
      WellTyped m c (.nullCheck e negated) (.known .boolean)
  | not {e : Expr} (operand : WellTyped m c e (.known .boolean)) :
      WellTyped m c (.not e) (.known .boolean)
  | logical {op : BinaryOp} {l r : Expr} (hop : op.isLogical = true)
      (left : WellTyped m c l (.known .boolean)) (right : WellTyped m c r (.known .boolean)) :
      WellTyped m c (.binary op l r) (.known .boolean)
  | equality {op : BinaryOp} {l r : Expr} {a b : Typing} (hop : op = .equals ∨ op = .notEquals)
      (left : WellTyped m c l a) (right : WellTyped m c r b)
      (comparable : Typed.checkEquality a b = .ok ()) :
      WellTyped m c (.binary op l r) (.known .boolean)
  | ordering {op : BinaryOp} {l r : Expr} {a b : Typing} (hop : op.isOrdering = true)
      (left : WellTyped m c l a) (right : WellTyped m c r b)
      (leftNumeric : a.isNumeric = true) (rightNumeric : b.isNumeric = true) :
      WellTyped m c (.binary op l r) (.known .boolean)
  | guarded {op : BinaryOp} {l r guard : Expr} {a b : Typing} (hop : op.isOrdering = true)
      (left : WellTyped m c l a) (right : WellTyped m c r b)
      (leftNumeric : a.stripNull.isNumeric = true) (rightNumeric : b.stripNull.isNumeric = true)
      (hguard : Typed.guard? (l, a) (r, b) = some guard)
      (test : WellTyped m c guard (.known .boolean)) :
      WellTyped m c (.binary .and guard (.binary op l r)) (.known .boolean)
  | ternary {test whenTrue whenFalse : Expr} {a b t : Typing}
      (condition : WellTyped m c test (.known .boolean))
      (left : WellTyped m c whenTrue a) (right : WellTyped m c whenFalse b)
      (hagree : Typed.agree a b = .ok t) :
      WellTyped m c (.ternary test whenTrue whenFalse) t

namespace WellTyped

variable {m : Manifest} {c : String} {e l r : Expr} {t a b : Typing}

theorem isComplete (h : WellTyped m c e t) : e.isComplete = true := by
  induction h with
  | literal | member => rfl
  | nullCheck _ _ ih | not _ ih => simpa [Expr.isComplete] using ih
  | logical _ _ _ ihl ihr | equality _ _ _ _ ihl ihr | ordering _ _ _ _ _ ihl ihr =>
    simp [Expr.isComplete, ihl, ihr]
  | guarded _ _ _ _ _ _ _ ihl ihr ihguard => simp [Expr.isComplete, ihl, ihr, ihguard]
  | ternary _ _ _ _ ihc ihl ihr => simp [Expr.isComplete, ihc, ihl, ihr]

/-- What holds of primitive types and of the types of all members, and is kept where null is
added, holds of the type of every expression. -/
theorem keeps {P : TypeRef → Prop} (hprimitive : ∀ kind, P (.primitive kind))
    (hnull : ∀ t, P t → P t.orNull) (hself : P (.reference c))
    (hmember : ∀ c name t, m.HasMember c name t → P t) (h : WellTyped m c e t) : t.Holds P := by
  induction h with
  | literal s =>
    cases s with
    | null => trivial
    | _ => exact hprimitive _
  | @member path nullSafe t hpath =>
    have ht := hpath.keeps hmember hself
    rw [Typing.Holds, TypeRef.alongPath]
    split
    · exact ht
    · exact hnull t ht
  | ternary _ _ _ hagree _ ihl ihr =>
    unfold Typed.agree at hagree
    split at hagree
    · exact Except.ok.inj hagree ▸ ihl
    split at hagree
    · exact Except.ok.inj hagree ▸ ihr.orNull hnull
    · exact Except.ok.inj hagree ▸ ihl.orNull hnull
    · split at hagree
      · exact Except.ok.inj hagree ▸ ihl.orNull hnull
      · cases hagree
  | _ => exact hprimitive _

theorem isProper (h : WellTyped m c e t) : t.isProper = true := by
  have hmember (c name : String) (t : TypeRef) (h : m.HasMember c name t) : t.isProper = true := by
    obtain ⟨_, _, _, _, _, _, _, hproper⟩ := h
    exact hproper
  have hholds := h.keeps (fun _ => rfl) (fun t ht => (TypeRef.isProper_orNull t).trans ht) rfl
    hmember
  cases t with
  | null => rfl
  | known t => exact hholds

/-- An operand that is accepted as a condition is a boolean once it is one. -/
theorem of_condition (h : WellTyped m c e t) {e' : Expr}
    (hcondition : Typed.condition (e, t) = .ok e') : WellTyped m c e' (.known .boolean) := by
  unfold Typed.condition at hcondition
  split at hcondition
  · next heq =>
    split at hcondition
    · simp at hcondition
    · obtain ⟨rfl, rfl⟩ := Prod.mk.inj heq
      obtain rfl := Except.ok.inj hcondition
      exact .nullCheck true h
  · next heq =>
    split at hcondition
    · next ht =>
      obtain ⟨rfl, rfl⟩ := Prod.mk.inj heq
      obtain rfl := Except.ok.inj hcondition
      exact ht ▸ h
    · simp at hcondition

theorem of_guard? (hl : WellTyped m c l a) (hr : WellTyped m c r b) {guard : Expr}
    (h : Typed.guard? (l, a) (r, b) = some guard) : WellTyped m c guard (.known .boolean) := by
  unfold Typed.guard? at h
  split at h <;> simp only [Option.some.injEq, reduceCtorEq] at h <;> subst h
  · exact .logical rfl (.nullCheck true hl) (.nullCheck true hr)
  · exact .nullCheck true hl
  · exact .nullCheck true hr

theorem isNumeric_of_guard?_eq_none {l r : Typed} (h : Typed.guard? l r = none)
    (hl : l.2.stripNull.isNumeric = true) (hr : r.2.stripNull.isNumeric = true) :
    l.2.isNumeric = true ∧ r.2.isNumeric = true := by
  have strip {t : Typing} (ht : t.isNullable = false) : t.stripNull = t := by
    cases t with
    | null => rfl
    | known t => cases t <;> first | rfl | simp [Typing.isNullable, TypeRef.isNullable] at ht
  unfold Typed.guard? at h
  split at h <;> simp at h
  next hleft hright => exact ⟨strip hleft ▸ hl, strip hright ▸ hr⟩

theorem checkOrdered_eq_ok {t : Typing} (h : Typed.checkOrdered t = .ok ()) :
    t.stripNull.isNumeric = true := by
  unfold Typed.checkOrdered at h
  split at h
  · assumption
  · simp at h

/-- What a comparison that is accepted looks like: an equality of comparable operands, or an order
on numbers, behind a test where an operand may be null. -/
theorem compare_cases {op : BinaryOp} {l r : Typed} (hop : op.isLogical = false)
    (h : Typed.compare op l r = .ok e) :
    ((op = .equals ∨ op = .notEquals) ∧ Typed.checkEquality l.2 r.2 = .ok () ∧
      e = .binary op l.1 r.1) ∨
    (op.isOrdering = true ∧ l.2.stripNull.isNumeric = true ∧ r.2.stripNull.isNumeric = true ∧
      (Typed.guard? l r = none ∧ e = .binary op l.1 r.1 ∨
        ∃ guard, Typed.guard? l r = some guard ∧
          e = .binary .and guard (.binary op l.1 r.1))) := by
  unfold Typed.compare at h
  cases hordering : op.isOrdering with
  | true =>
    simp only [hordering, if_true] at h
    obtain ⟨_, ha, h⟩ := Success.bind_eq_ok.mp h
    obtain ⟨_, hb, h⟩ := Success.bind_eq_ok.mp h
    refine .inr ⟨rfl, checkOrdered_eq_ok ha, checkOrdered_eq_ok hb, ?_⟩
    cases hguard : Typed.guard? l r with
    | none =>
      rw [hguard] at h
      exact .inl ⟨rfl, (Success.pure_eq_ok.mp h).symm⟩
    | some guard =>
      rw [hguard] at h
      exact .inr ⟨guard, rfl, (Success.pure_eq_ok.mp h).symm⟩
  | false =>
    simp only [hordering] at h
    obtain ⟨_, hcomparable, h⟩ := Success.bind_eq_ok.mp h
    refine .inl ⟨?_, hcomparable, (Success.pure_eq_ok.mp h).symm⟩
    cases op <;> simp_all [BinaryOp.isOrdering, BinaryOp.isLogical]

/-- A comparison that is accepted is a boolean. -/
theorem of_compare {op : BinaryOp} (hop : op.isLogical = false) (hl : WellTyped m c l a)
    (hr : WellTyped m c r b) (h : Typed.compare op (l, a) (r, b) = .ok e) :
    WellTyped m c e (.known .boolean) := by
  rcases compare_cases hop h with ⟨hop, hcomparable, rfl⟩ | ⟨hop, hleft, hright, hguarded⟩
  · exact .equality hop hl hr hcomparable
  rcases hguarded with ⟨hnone, rfl⟩ | ⟨guard, hguard, rfl⟩
  · obtain ⟨hleft, hright⟩ := isNumeric_of_guard?_eq_none hnone hleft hright
    exact .ordering hop hl hr hleft hright
  · exact .guarded hop hl hr hleft hright hguard (of_guard? hl hr hguard)

end WellTyped

end ViewModel
