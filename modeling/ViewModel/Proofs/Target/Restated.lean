import ViewModel.Proofs.Accessor.Accepts
import ViewModel.Proofs.Target.Reading

/-!
What the words of Python say in the language of accessors. Each way to put phrases together puts
together terms that are accepted, of the types and with the values of the expressions that the
phrases were printed for.
-/

namespace ViewModel

open Accessor
open Source (Term CompareOp Constant)

/-! What the words of Python say. -/

def Double.isNegative : Double → Bool
  | nan => false
  | infinite s | finite s .. => s

/-- A number, or a minus before the opposite number. -/
def Source.Term.signed (negative : Bool) (number opposite : Constant) : Term :=
  if negative then .unary .minus (.constant opposite) else .constant number

/-- A constant as it is written: a number below zero has a minus before it. -/
def Scalar.term : Scalar → Term
  | null => .constant .none
  | bool b => .constant (.bool b)
  | int n => .signed (n < 0) (.int n) (.int (-n))
  | float x => .signed x.isNegative (.float x) (.float x.neg)
  | text s => .constant (.text s)

/-- The comparison that is written with this word between two operands. -/
def Source.CompareOp.ofWord? : String → Option CompareOp
  | "is" => some .is
  | "is not" => some .isNot
  | word => Expression.isComparison word

namespace Phrase

/-- One attribute after the other, none of which is safe. -/
def attributes? : Term → List (Bool × String) → Option Term
  | receiver, [] => some receiver
  | _, (true, _) :: _ => none
  | receiver, (false, name) :: rest => attributes? (.access receiver name) rest

def joinedTerm? (word : String) (left right : Term) : Option Term :=
  match word with
  | "and" => some (.logical true left right)
  | "or" => some (.logical false left right)
  | word => (CompareOp.ofWord? word).map fun op => .compare left op right []

/-- A comparison with one more link. -/
def chainedTerm? (word : String) (left right : Term) : Option Term :=
  match left with
  | .compare first op second more =>
      (CompareOp.ofWord? word).map fun op' => .compare first op second (more ++ [(op', right)])
  | _ => none

/-- The term that words of Python say. A conditional has its value first and its test in the
middle. -/
def term? : Phrase → Option Term
  | literal s => some s.term
  | path accesses => attributes? (.name "self") accesses
  | negated s => s.term?.map (.unary .not)
  | joined word left right => do joinedTerm? word (← left.term?) (← right.term?)
  | chained word left right => do chainedTerm? word (← left.term?) (← right.term?)
  | conditional value test other =>
      return .conditional (← test.term?) (← value.term?) (← other.term?)

end Phrase

variable {m : Manifest} {c : String} {v : Value} {s s' : Phrase}
  {e e' l l' r r' : Expr} {τ a b : Typing} {p q : Bool}

section Signed

variable {number opposite : Constant} {n o : Scalar}

theorem signed_elaborates (negative : Bool) (hnumber : number.scalar? = some n)
    (hopposite : opposite.scalar? = some o) (hneg : o.negated? = some n) :
    Elaborates m c (.signed negative number opposite) (.literal n) n.typing := by
  unfold Term.signed
  split
  · exact .negative hopposite hneg
  · exact .constant hnumber

theorem comparisons_signed (negative : Bool) (number opposite : Constant) :
    comparisons (.signed negative number opposite) = [] := by
  unfold Term.signed
  split <;> simp [comparisons]

end Signed

namespace Scalar

theorem term_elaborates (s : Scalar) : Elaborates m c s.term (.literal s) s.typing := by
  cases s with
  | null | bool | text => exact .constant rfl
  | int n => exact signed_elaborates _ rfl rfl (by simp [negated?])
  | float x => exact signed_elaborates _ rfl rfl (by simp [negated?])

theorem eq_null_of_term_isNone {s : Scalar} (h : s.term.isNone = true) : s = null := by
  have hsigned {negative : Bool} {number opposite : Constant} (hnumber : number ≠ .none) :
      (Term.signed negative number opposite).isNone = false := by
    unfold Term.signed
    split
    · rfl
    · cases number <;> first | rfl | exact absurd rfl hnumber
  cases s with
  | null => rfl
  | bool | text => cases h
  | int | float =>
    rw [term, hsigned (by simp)] at h
    cases h

theorem term_testsValues (s : Scalar) : TestsValues s.term := by
  have hnone : comparisons s.term = [] := by
    cases s with
    | int | float => exact comparisons_signed _ _ _
    | _ => simp [term, comparisons]
  intro l hl
  rw [hnone] at hl
  cases hl

end Scalar

/-- The phrase says a term that is accepted as an expression of this type, with the values of
`e`. -/
structure Restates (m : Manifest) (c : String) (s : Phrase) (e : Expr) (τ : Typing) (t : Term)
    (e' : Expr) : Prop where
  term : s.term? = some t
  elaborates : Elaborates m c t e' τ
  tests : TestsValues t
  isNone : t.isNone = true → s = .literal .null
  evaluates : ∀ v, HasType m v (.reference c) → e'.evaluate v = e.evaluate v

def Restated (m : Manifest) (c : String) (s : Phrase) (e : Expr) (τ : Typing) : Prop :=
  ∃ t e', Restates m c s e τ t e'

namespace Expr

theorem evaluate_binary_congr {op : BinaryOp} (hl : l.evaluate v = l'.evaluate v)
    (hr : r.evaluate v = r'.evaluate v) :
    (binary op l r).evaluate v = (binary op l' r').evaluate v := by
  cases op <;> simp only [evaluate, hl, hr]

/-- A test may be made twice. -/
theorem evaluate_and_and (hl : l.evaluate v = .ok (.bool p))
    (h : (binary .and l r).evaluate v = .ok (.bool q)) :
    (binary .and l (binary .and l r)).evaluate v = (binary .and l r).evaluate v := by
  cases p with
  | false => rw [evaluate_and_false hl, evaluate_and_false hl]
  | true => rw [evaluate_and_true hl h, h]

end Expr

/-- A number is never null. -/
theorem stripNull_of_isNumeric (h : a.isNumeric = true) :
    a.stripNull = a ∧ a.isNullable = false := by
  cases a with
  | null => cases h
  | known t =>
    cases t with
    | nullable => simp [Typing.isNumeric, TypeRef.isNumeric] at h
    | _ => exact ⟨rfl, rfl⟩

section Comparison

variable {op : BinaryOp}

theorem compare_of_equality (hop : op = .equals ∨ op = .notEquals)
    (hcomparable : Typed.checkEquality a b = .ok ()) :
    Typed.compare op (l, a) (r, b) = .ok (.binary op l r) := by
  have hordering : op.isOrdering = false := by rcases hop with rfl | rfl <;> rfl
  simp [Typed.compare, hordering, hcomparable, bind, Except.bind, pure, Except.pure]

theorem compare_of_ordering (hop : op.isOrdering = true) (ha : a.stripNull.isNumeric = true)
    (hb : b.stripNull.isNumeric = true) :
    Typed.compare op (l, a) (r, b) =
      .ok (match Typed.guard? (l, a) (r, b) with
        | some guard => .binary .and guard (.binary op l r)
        | none => .binary op l r) := by
  simp only [Typed.compare, hop, Typed.checkOrdered, ha, hb, if_true]
  cases Typed.guard? (l, a) (r, b) <;> rfl

/-- Whether there is a guard depends on the types of the operands, its value on their values. -/
theorem guard?_congr (l l' r r' : Expr) (a b : Typing) :
    Option.Rel (fun guard guard' => ∀ v, l'.evaluate v = l.evaluate v →
        r'.evaluate v = r.evaluate v → guard'.evaluate v = guard.evaluate v)
      (Typed.guard? (l, a) (r, b)) (Typed.guard? (l', a) (r', b)) := by
  unfold Typed.guard?
  cases a.isNullable <;> cases b.isNullable
  · exact .none
  · exact .some fun v _ hr => by simp only [Expr.evaluate, hr]
  · exact .some fun v hl _ => by simp only [Expr.evaluate, hl]
  · exact .some fun v hl hr => by simp only [Expr.evaluate, hl, hr]

/-- A comparison is accepted for the types of its operands, and its value depends on their
values. -/
theorem compare_congr (hop : op.isLogical = false) (h : Typed.compare op (l, a) (r, b) = .ok e)
    (l' r' : Expr) : ∃ e', Typed.compare op (l', a) (r', b) = .ok e' ∧
      ∀ v, l'.evaluate v = l.evaluate v → r'.evaluate v = r.evaluate v →
        e'.evaluate v = e.evaluate v := by
  rcases WellTyped.compare_cases hop h with
    ⟨hequality, hcomparable, rfl⟩ | ⟨hordering, ha, hb, -⟩
  · exact ⟨_, compare_of_equality hequality hcomparable, fun v => Expr.evaluate_binary_congr⟩
  · refine ⟨_, compare_of_ordering hordering ha hb, fun v hl hr => ?_⟩
    rw [compare_of_ordering hordering ha hb] at h
    obtain rfl := Except.ok.inj h
    have hbinary : (Expr.binary op l' r').evaluate v = (Expr.binary op l r).evaluate v :=
      Expr.evaluate_binary_congr hl hr
    have hguards := guard?_congr l l' r r' a b
    revert hguards
    generalize Typed.guard? (l, a) (r, b) = guard
    generalize Typed.guard? (l', a) (r', b) = guard'
    rintro (h | _)
    · exact Expr.evaluate_binary_congr (h v hl hr) hbinary
    · exact hbinary

end Comparison

theorem joinedTerm?_operator {op : BinaryOp} (hop : op.isLogical = false) : ∃ cop,
    Site.binaryOp? cop = some op ∧ ∀ x y : Term,
      Phrase.joinedTerm? (Dialect.python.operator op) x y = some (.compare x cop y []) := by
  cases op <;> simp [BinaryOp.isLogical] at hop
  exacts [⟨.eq, rfl, fun _ _ => rfl⟩, ⟨.notEq, rfl, fun _ _ => rfl⟩, ⟨.gt, rfl, fun _ _ => rfl⟩,
    ⟨.gtE, rfl, fun _ _ => rfl⟩, ⟨.lt, rfl, fun _ _ => rfl⟩, ⟨.ltE, rfl, fun _ _ => rfl⟩]

namespace Restated

theorem literal (s : Scalar) : Restated m c (.literal s) (.literal s) s.typing :=
  ⟨s.term, .literal s, rfl, s.term_elaborates, s.term_testsValues,
    fun h => congrArg Phrase.literal (Scalar.eq_null_of_term_isNone h), fun _ _ => rfl⟩

/-- What has the same values on every instance is said as well. -/
theorem of_evaluates (h : Restated m c s e τ)
    (heq : ∀ v, HasType m v (.reference c) → e.evaluate v = e'.evaluate v) :
    Restated m c s e' τ := by
  obtain ⟨t, f, h⟩ := h
  exact ⟨t, f, h.term, h.elaborates, h.tests, h.isNone,
    fun v hv => (h.evaluates v hv).trans (heq v hv)⟩

theorem nullTest (h : Restated m c s e τ) (hs : s ≠ .literal .null) (negated : Bool) :
    Restated m c (.joined (Dialect.python.nullTest negated) s (.literal .null))
      (.nullCheck e negated) (.known .boolean) := by
  obtain ⟨t, f, h⟩ := h
  obtain ⟨op, hop, hnegated, hterm⟩ : ∃ op, Site.testsNull op = true ∧
      (op == .isNot || op == .notEq) = negated ∧ ∀ x y : Term,
        Phrase.joinedTerm? (Dialect.python.nullTest negated) x y = some (.compare x op y []) := by
    cases negated
    · exact ⟨.is, rfl, rfl, fun _ _ => rfl⟩
    · exact ⟨.isNot, rfl, rfl, fun _ _ => rfl⟩
  have hlink : Link t (f, τ) op (.constant .none) (.literal .null, .null) (.nullCheck f negated) :=
    hnegated ▸ .nullRight hop rfl
  refine ⟨.compare t op (.constant .none) [], .nullCheck f negated, ?_,
    .pair h.elaborates (.constant rfl) hlink, ?_, ?_, fun v hv => ?_⟩
  · simp only [Phrase.term?, h.term, Option.bind_eq_bind, Option.bind_some]
    exact hterm t _
  · rw [TestsValues, comparisons]
    simp only [chained, List.append_nil, comparisons]
    refine List.forall_mem_cons.mpr ⟨fun _ hnone => absurd (h.isNone hnone) hs, h.tests⟩
  · intro hnone
    cases hnone
  · simp only [Expr.evaluate, h.evaluates v hv]

theorem negated (h : Restated m c s e (.known .boolean)) :
    Restated m c (.negated s) (.not e) (.known .boolean) := by
  obtain ⟨t, f, h⟩ := h
  refine ⟨.unary .not t, .not f, ?_, .not h.elaborates rfl, ?_, ?_, fun v hv => ?_⟩
  · rw [Phrase.term?, h.term, Option.map_some]
  · rw [TestsValues, comparisons]
    exact h.tests
  · intro hnone
    cases hnone
  · simp only [Expr.evaluate, h.evaluates v hv]

theorem logical {op : BinaryOp} (hop : op.isLogical = true)
    (hl : Restated m c s l (.known .boolean)) (hr : Restated m c s' r (.known .boolean)) :
    Restated m c (.joined (Dialect.python.operator op) s s') (.binary op l r)
      (.known .boolean) := by
  obtain ⟨x, l', hl⟩ := hl
  obtain ⟨y, r', hr⟩ := hr
  obtain ⟨conjunction, rfl⟩ : ∃ conjunction : Bool, op = if conjunction then .and else .or := by
    cases op <;> simp [BinaryOp.isLogical] at hop
    exacts [⟨true, rfl⟩, ⟨false, rfl⟩]
  refine ⟨.logical conjunction x y, _, ?_, .logical hl.elaborates rfl hr.elaborates rfl, ?_, ?_,
    fun v hv => Expr.evaluate_binary_congr (hl.evaluates v hv) (hr.evaluates v hv)⟩
  · simp only [Phrase.term?, hl.term, hr.term, Option.bind_eq_bind, Option.bind_some]
    cases conjunction <;> rfl
  · rw [TestsValues, comparisons]
    exact List.forall_mem_append.mpr ⟨hl.tests, hr.tests⟩
  · intro hnone
    cases hnone

theorem comparison {op : BinaryOp} (hop : op.isLogical = false) (hl : Restated m c s l a)
    (hr : Restated m c s' r b) (h : Typed.compare op (l, a) (r, b) = .ok e) :
    Restated m c (.joined (Dialect.python.operator op) s s') e (.known .boolean) := by
  obtain ⟨x, l', hl⟩ := hl
  obtain ⟨y, r', hr⟩ := hr
  obtain ⟨e', he', hvalue⟩ := compare_congr hop h l' r'
  obtain ⟨cop, hcop, hterm⟩ := joinedTerm?_operator hop
  refine ⟨.compare x cop y [], e', ?_, .pair hl.elaborates hr.elaborates (.values hcop he'), ?_, ?_,
    fun v hv => hvalue v (hl.evaluates v hv) (hr.evaluates v hv)⟩
  · simp only [Phrase.term?, hl.term, hr.term, Option.bind_eq_bind, Option.bind_some]
    exact hterm x y
  · rw [TestsValues, comparisons]
    simp only [chained, List.append_nil]
    refine List.forall_mem_cons.mpr ⟨fun htests hnone => ?_,
      List.forall_mem_append.mpr ⟨hl.tests, hr.tests⟩⟩
    exact absurd (hl.elaborates.typing_of_isNone hnone) (typings_of_testsNull hcop he' htests).1
  · intro hnone
    cases hnone

/-- A conditional has its value before its test. -/
theorem conditional {f f' f'' : Phrase} {test whenTrue whenFalse : Expr}
    (hc : Restated m c f test (.known .boolean)) (ht : Restated m c f' whenTrue a)
    (hf : Restated m c f'' whenFalse b) (hagree : Typed.agree a b = .ok τ) :
    Restated m c (.conditional f' f f'') (.ternary test whenTrue whenFalse) τ := by
  obtain ⟨x, _, hc⟩ := hc
  obtain ⟨y, _, ht⟩ := ht
  obtain ⟨z, _, hf⟩ := hf
  refine ⟨.conditional x y z, _, ?_,
    .conditional hc.elaborates rfl ht.elaborates hf.elaborates hagree, ?_, ?_, fun v hv => ?_⟩
  · simp [Phrase.term?, hc.term, ht.term, hf.term]
  · rw [TestsValues, comparisons]
    exact List.forall_mem_append.mpr ⟨List.forall_mem_append.mpr ⟨hc.tests, ht.tests⟩, hf.tests⟩
  · intro hnone
    cases hnone
  · simp only [Expr.evaluate, hc.evaluates v hv, ht.evaluates v hv, hf.evaluates v hv]

end Restated

/-! Paths, and the guards before them. -/

namespace PathType

variable {i : Nat} {path rest : List String} {nullSafe : List Int} {t u : TypeRef}

/-- A path leads somewhere all the way. -/
theorem take (h : PathType m i t (path ++ rest) nullSafe u) :
    ∃ nullSafe' u', PathType m i t path nullSafe' u' := by
  induction path generalizing i t nullSafe with
  | nil => exact ⟨[], t, .nil i t⟩
  | cons name path ih =>
    cases h with
    | strict hmember h =>
      obtain ⟨_, _, h'⟩ := ih h
      exact ⟨_, _, .strict hmember h'⟩
    | safe hmember h =>
      obtain ⟨_, _, h'⟩ := ih h
      exact ⟨_, _, .safe hmember h'⟩

theorem le_of_mem (h : PathType m i t path nullSafe u) {j : Int} (hj : j ∈ nullSafe) : i ≤ j := by
  induction h with
  | nil => cases hj
  | strict _ _ ih =>
    have := ih hj
    omega
  | safe _ _ ih =>
    rcases List.mem_cons.mp hj with rfl | hj
    · exact Int.le_refl _
    · have := ih hj
      omega

/-- The instance itself is never null. -/
theorem zero_not_mem (h : PathType m 0 (.reference c) path nullSafe u) : 0 ∉ nullSafe := by
  cases h with
  | nil => exact List.not_mem_nil
  | strict _ h =>
    intro hmem
    have := h.le_of_mem hmem
    omega

end PathType

theorem attributes?_plain (t : Term) (path : List String) :
    Phrase.attributes? t (path.map fun name => (false, name)) = some (path.foldl .access t) := by
  induction path generalizing t with
  | nil => rfl
  | cons name path ih => exact ih (.access t name)

theorem path?_foldl {t : Term} {before : List String} (path : List String)
    (h : Site.path? t = some before) :
    Site.path? (path.foldl .access t) = some (before ++ path) := by
  induction path generalizing t before with
  | nil => simpa using h
  | cons name path ih =>
    have hname : Site.path? (.access t name) = some (before ++ [name]) := by
      rw [Site.path?, h, Option.map_some]
    simpa using ih hname

/-- The test that none of some receivers is null. -/
def guardsExpr (first : List String) (more : List (List String)) : Expr :=
  more.foldl (fun sofar receiver => .binary .and sofar (.nullCheck (.member receiver []) true))
    (.nullCheck (.member first []) true)

theorem guardsExpr_evaluate (v : Value) (first : List String) (more : List (List String)) :
    (guardsExpr first more).evaluate v =
      .ok (.bool ((first :: more).all fun receiver => !(v.memberPath receiver).isNull)) := by
  have guard (receiver : List String) : (Expr.nullCheck (.member receiver []) true).evaluate v =
      .ok (.bool !(v.memberPath receiver).isNull) := by
    rw [Expr.evaluate_nullCheck true (a := v.memberPath receiver) rfl, Bool.bne_true]
  have hmore (sofar : Expr) (p : Bool) (hsofar : sofar.evaluate v = .ok (.bool p)) :
      (more.foldl (fun sofar receiver =>
          .binary .and sofar (.nullCheck (.member receiver []) true)) sofar).evaluate v =
        .ok (.bool (p && more.all fun receiver => !(v.memberPath receiver).isNull)) := by
    induction more generalizing sofar p with
    | nil => simpa using hsofar
    | cons receiver more ih =>
      have hand : (Expr.binary .and sofar (.nullCheck (.member receiver []) true)).evaluate v =
          .ok (.bool (p && !(v.memberPath receiver).isNull)) := by
        cases p with
        | false => exact Expr.evaluate_and_false hsofar
        | true => exact Expr.evaluate_and_true hsofar (guard receiver)
      rw [List.foldl_cons, ih _ _ hand, List.all_cons, Bool.and_assoc]
  exact hmore _ _ (guard first)

namespace Restated

variable {path : List String} {nullSafe : List Int} {t : TypeRef}

theorem plain (hne : path ≠ []) (hpath : PathType m 0 (.reference c) path nullSafe t) :
    Restated m c (plainPath path) (.member path nullSafe) (.known (t.alongPath nullSafe)) := by
  obtain ⟨before, name, rfl⟩ := path.eq_nil_or_concat.resolve_left hne
  rw [List.concat_eq_append] at hpath ⊢
  have hself : Site.path? (.name "self") = some [] := rfl
  have hreceiver : Site.path? (before.foldl .access (.name "self")) = some before :=
    path?_foldl before hself
  refine ⟨.access (before.foldl .access (.name "self")) name, _, ?_, .member hreceiver hpath, ?_,
    ?_, fun _ _ => rfl⟩
  · rw [plainPath, Phrase.term?, attributes?_plain, List.foldl_append]
    rfl
  · intro l hl
    simp [comparisons] at hl
  · intro hnone
    cases hnone

theorem guards {first : List String} {more : List (List String)}
    (h : ∀ receiver ∈ first :: more, receiver ≠ [] ∧
      ∃ nullSafe t, PathType m 0 (.reference c) receiver nullSafe t) :
    Restated m c (guardsPhrase first more) (guardsExpr first more) (.known .boolean) := by
  have guard {receiver : List String} (h : receiver ≠ [] ∧
      ∃ nullSafe t, PathType m 0 (.reference c) receiver nullSafe t) :
      Restated m c (guardPhrase receiver) (.nullCheck (.member receiver []) true)
        (.known .boolean) := by
    obtain ⟨hne, nullSafe, t, hpath⟩ := h
    have hplain : plainPath receiver ≠ .literal .null := by simp [plainPath]
    exact ((plain hne hpath).nullTest hplain true).of_evaluates fun _ _ => rfl
  obtain ⟨hfirst, hmore⟩ := List.forall_mem_cons.mp h
  have hguards (s : Phrase) (e : Expr) (hs : Restated m c s e (.known .boolean)) :
      Restated m c
        (more.foldl (fun sofar receiver => .joined "and" sofar (guardPhrase receiver)) s)
        (more.foldl (fun sofar receiver =>
          .binary .and sofar (.nullCheck (.member receiver []) true)) e) (.known .boolean) := by
    induction more generalizing s e with
    | nil => exact hs
    | cons receiver more ih =>
      obtain ⟨hreceiver, hmore⟩ := List.forall_mem_cons.mp hmore
      have hboth : ∀ r ∈ first :: more, _ := List.forall_mem_cons.mpr ⟨hfirst, hmore⟩
      have hand : BinaryOp.and.isLogical = true := rfl
      exact ih hboth hmore _ _ (logical hand hs (guard hreceiver))
  exact hguards _ _ (guard hfirst)

/-- A path behind its guards is a conditional of the same type and the same value. -/
theorem guarded (hne : path ≠ []) (hpath : PathType m 0 (.reference c) path nullSafe t) :
    Restated m c (guardedPath path nullSafe) (.member path nullSafe)
      (.known (t.alongPath nullSafe)) := by
  unfold guardedPath
  cases hguards : Dialect.guardedPrefixes nullSafe [] 0 path with
  | nil => exact plain hne hpath
  | cons first more =>
    have receivers {receiver : List String} (h : receiver ∈ first :: more) :
        ∃ after, path = receiver ++ after ∧ receiver ≠ [] ∧ nullSafe ≠ [] := by
      obtain ⟨before, after, rfl, rfl, hmem⟩ := mem_guardedPrefixes (hguards ▸ h)
      refine ⟨after, rfl, ?_, List.ne_nil_of_mem hmem⟩
      rintro rfl
      exact hpath.zero_not_mem (by simpa using hmem)
    have htests : Restated m c (guardsPhrase first more) (guardsExpr first more)
        (.known .boolean) := guards fun receiver hreceiver => by
      obtain ⟨after, rfl, hne', -⟩ := receivers hreceiver
      exact ⟨hne', hpath.take⟩
    have hagree : Typed.agree (.known (t.alongPath nullSafe)) .null =
        .ok (.known (t.alongPath nullSafe)) := by
      obtain ⟨_, -, -, hsafe⟩ := receivers List.mem_cons_self
      simp [Typed.agree, TypeRef.alongPath, hsafe, Typing.orNull]
    refine (conditional htests (plain hne hpath) (literal .null) hagree).of_evaluates
      fun v _ => ?_
    have hevaluate := guardsExpr_evaluate v first more
    cases hall : (first :: more).all fun receiver => !(v.memberPath receiver).isNull with
    | true =>
      rw [hall] at hevaluate
      exact Expr.evaluate_ternary_true hevaluate
    | false =>
      rw [hall] at hevaluate
      rw [Expr.evaluate_ternary_false hevaluate]
      obtain ⟨receiver, hreceiver, hnull⟩ := List.all_eq_false.mp hall
      obtain ⟨after, rfl, -⟩ := receivers hreceiver
      have hreceived : v.memberPath receiver = .null := by simpa using hnull
      have hpath : v.memberPath (receiver ++ after) = .null := by
        rw [Value.memberPath, List.foldl_append]
        exact hreceived ▸ Value.memberPath_null after
      exact congrArg Except.ok hpath.symm

end Restated

end ViewModel
