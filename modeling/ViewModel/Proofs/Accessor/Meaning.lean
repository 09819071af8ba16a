import ViewModel.Proofs.Accessor.Soundness

/-!
The meaning of an accessor in its own language, and that its expression tree preserves it. Reading
a member of null and comparing null by order have no meaning; the operands of logical operations
and conditions count as truth values, for which null is false and any other value that is not a
truth value itself is true.
-/

namespace ViewModel

open Source (Term CompareOp Constant)

namespace Value

/-- The truth of an operand: a boolean is its own, anything else is true unless it is null. -/
def isPresent : Value → Bool
  | null => false
  | bool b => b
  | _ => true

/-- The negative of a number. -/
def negated? : Value → Option Value
  | bool b => some (int (if b then -1 else 0))
  | int n => some (int (-n))
  | float x => some (float x.neg)
  | _ => none

end Value

namespace Source

/-- The value of a constant; those that no expression may hold have none here. -/
def Constant.value? : Constant → Option Value
  | .none => some .null
  | .bool b => some (.bool b)
  | .int n => some (.int n)
  | .float x => some (.float x)
  | .text s => some (.text s)
  | .imaginary | .bytes | .ellipsis => Option.none

/-- The result of one comparison. Identity is only told where one side is null. -/
def CompareOp.test? (op : CompareOp) (v w : Value) : Option Bool :=
  match op with
  | eq => some (v.equal w)
  | notEq => some !(v.equal w)
  | lt => Value.compare? .less v w
  | ltE => Value.compare? .lessEqual v w
  | gt => Value.compare? .greater v w
  | gtE => Value.compare? .greaterEqual v w
  | is => if v.isNull || w.isNull then some (v.isNull && w.isNull) else none
  | isNot => if v.isNull || w.isNull then some !(v.isNull && w.isNull) else none
  | member | notMember => none

namespace Term

mutual

/-- The value of a term where `self` is the instance, if it is defined. -/
def meaning (self : Value) : Term → Option Value
  | constant k => k.value?
  | name id => if id = "self" then some self else none
  | access receiver id => do (← meaning self receiver).held? id
  | logical true left right => do
      if (← meaning self left).isPresent then return .bool (← meaning self right).isPresent
      else return .bool false
  | logical false left right => do
      if (← meaning self left).isPresent then return .bool true
      else return .bool (← meaning self right).isPresent
  | unary .not operand => do return .bool !(← meaning self operand).isPresent
  | unary .minus operand => do (← meaning self operand).negated?
  | compare first op second more => do
      let v ← meaning self first
      let w ← meaning self second
      if ← op.test? v w then return .bool (← links self w more) else return .bool false
  | conditional test whenTrue whenFalse => do
      if (← meaning self test).isPresent then meaning self whenTrue else meaning self whenFalse
  | _ => none

/-- Whether the further links of a chain hold, each one only asked for where all before it do. The
last value so far is the left operand of the first of them. -/
def links (self : Value) (last : Value) : List (CompareOp × Term) → Option Bool
  | [] => some true
  | (op, t) :: rest => do
      let w ← meaning self t
      if ← op.test? last w then links self w rest else return false

end

end Term

namespace Term

variable {v x y : Value} {first second : Term} {op : CompareOp} {b : Bool}
  {more : List (CompareOp × Term)}

/-- The value of a chain of comparisons: false where the first one fails, and what the further
links say otherwise. -/
theorem meaning_compare {w : Value} (h : (compare first op second more).meaning v = some w) :
    ∃ x y s, first.meaning v = some x ∧ second.meaning v = some y ∧ op.test? x y = some s ∧
      (s = false ∧ w = .bool false ∨
        s = true ∧ ∃ b, links v y more = some b ∧ w = .bool b) := by
  obtain ⟨x, hx, h⟩ := Option.bind_eq_some_iff.mp h
  obtain ⟨y, hy, h⟩ := Option.bind_eq_some_iff.mp h
  obtain ⟨s, hs, h⟩ := Option.bind_eq_some_iff.mp h
  refine ⟨x, y, s, hx, hy, hs, ?_⟩
  cases s with
  | false => exact .inl ⟨rfl, (Option.some.inj h).symm⟩
  | true =>
    obtain ⟨b, hb, h⟩ := Option.bind_eq_some_iff.mp h
    exact .inr ⟨rfl, b, hb, (Option.some.inj h).symm⟩

theorem meaning_compare_false (hx : first.meaning v = some x) (hy : second.meaning v = some y)
    (hs : op.test? x y = some false) :
    (compare first op second more).meaning v = some (.bool false) := by
  simp [meaning, hx, hy, hs]

theorem meaning_compare_true (hx : first.meaning v = some x) (hy : second.meaning v = some y)
    (hs : op.test? x y = some true) (hb : links v y more = some b) :
    (compare first op second more).meaning v = some (.bool b) := by
  simp [meaning, hx, hy, hs, hb]

end Term

/-- A chain with one more link holds where the chain before it and that link hold; its value does
not depend on the link where the chain before it fails. -/
theorem links_append {v y : Value} {second t : Term} {op : CompareOp} {p : Bool}
    {more : List (CompareOp × Term)} (hy : second.meaning v = some y)
    (h : Term.links v y (more ++ [(op, t)]) = some p) :
    ∃ b, Term.links v y more = some b ∧ (b = false ∧ p = false ∨
      b = true ∧ ∃ x z, (Accessor.lastOperand second more).meaning v = some x ∧
        t.meaning v = some z ∧ op.test? x z = some p) := by
  induction more generalizing second y with
  | nil =>
    simp only [List.nil_append, Term.links, Option.bind_eq_bind, Option.bind_eq_some_iff] at h
    obtain ⟨z, hz, q, hq, h⟩ := h
    refine ⟨true, rfl, .inr ⟨rfl, y, z, hy, hz, ?_⟩⟩
    cases q <;> simp_all
  | cons link more ih =>
    obtain ⟨op', s⟩ := link
    simp only [List.cons_append, Term.links, Option.bind_eq_bind, Option.bind_eq_some_iff] at h ⊢
    obtain ⟨z, hz, q, hq, h⟩ := h
    cases q with
    | false =>
      simp only [Bool.false_eq_true, if_false] at h
      exact ⟨false, ⟨z, hz, false, hq, rfl⟩, .inl ⟨rfl, by simpa using h.symm⟩⟩
    | true =>
      obtain ⟨b, hb, hlast⟩ := ih hz h
      refine ⟨b, ⟨z, hz, true, hq, hb⟩, ?_⟩
      rw [Accessor.lastOperand_cons]
      exact hlast

end Source

namespace Accessor

variable {m : Manifest} {c : String} {v p q w : Value} {a b : Typing} {e e' l r : Expr}

/-- An operand that is taken as a condition has its truth as its value. -/
theorem condition_evaluates (h : Typed.condition (e, a) = .ok e') (he : e.evaluate v = .ok w)
    (hw : HasTyping m w a) (ha : a.isProper = true) :
    e'.evaluate v = .ok (.bool w.isPresent) := by
  unfold Typed.condition at h
  split at h
  next heq =>
    split at h
    · cases h
    next t hne =>
      obtain ⟨rfl, rfl⟩ := Prod.mk.inj heq
      obtain rfl := Except.ok.inj h
      rw [Expr.evaluate_nullCheck true he]
      rcases HasType.nullable_cases hw with rfl | hw
      · rfl
      · have hproper : t.isProper = true ∧ t.isNullable = false := by
          simpa [Typing.isProper, TypeRef.isProper] using ha
        cases hw with
        | bool => exact absurd rfl hne
        | null | present => cases hproper.2
        | object _ hobject =>
          cases w <;> first | rfl | cases hobject
        | _ => rfl
  next heq =>
    split at h
    next ha =>
      obtain ⟨rfl, rfl⟩ := Prod.mk.inj heq
      obtain rfl := Except.ok.inj h
      obtain ⟨p, rfl⟩ := (ha ▸ hw : HasTyping m w (.known .boolean)).boolean_cases
      exact he
    · cases h

/-- The tests that no nullable operand is null are true where no operand is null. -/
theorem guard_evaluates {guard : Expr} (hguard : Typed.guard? (l, a) (r, b) = some guard)
    (hl : l.evaluate v = .ok p) (hr : r.evaluate v = .ok q) (hp : p ≠ .null) (hq : q ≠ .null) :
    guard.evaluate v = .ok (.bool true) := by
  have present {e : Expr} {w : Value} (he : e.evaluate v = .ok w) (hw : w ≠ .null) :
      (Expr.nullCheck e true).evaluate v = .ok (.bool true) := by
    rw [Expr.evaluate_nullCheck true he, Value.isNull_eq_false hw]
    rfl
  unfold Typed.guard? at hguard
  split at hguard <;> simp only [Option.some.injEq, reduceCtorEq] at hguard <;> subst hguard
  · exact Expr.evaluate_and_true (present hl hp) (present hr hq)
  · exact present hl hp
  · exact present hr hq

/-- A comparison that is accepted has the result of its operator, where that is defined. -/
theorem compare_evaluates {operator : BinaryOp} {op : CompareOp} {s : Bool}
    (hop : Site.binaryOp? op = some operator) (h : Typed.compare operator (l, a) (r, b) = .ok e)
    (hl : l.evaluate v = .ok p) (hr : r.evaluate v = .ok q) (hp : HasTyping m p a)
    (hq : HasTyping m q b) (hs : op.test? p q = some s) : e.evaluate v = .ok (.bool s) := by
  have hlogical := isLogical_of_binaryOp? hop
  rcases WellTyped.compare_cases hlogical h with
    ⟨hequality, hcomparable, rfl⟩ | ⟨hordering, -, -, hguarded⟩
  · have hstrict := Value.strictEqual_of_comparable hcomparable hp hq
    refine Expr.evaluate_comparison hlogical hl hr ?_
    rcases hequality with rfl | rfl
    · cases op <;> cases hop
      rw [BinaryOp.compare, hstrict, Option.some.inj hs]
    · cases op <;> cases hop
      rw [BinaryOp.compare, hstrict, Option.some.inj hs]
  have hcompare : Value.compare? operator.relation p q = some s := by
    cases op <;> cases hop <;> first | exact hs | cases hordering
  obtain ⟨hpn, hqn⟩ := Value.not_null_of_compare? hcompare
  have hresult : operator.compare p q = .ok s := BinaryOp.compare_of_compare? hordering hcompare
  have hcomparison := Expr.evaluate_comparison hlogical hl hr hresult
  rcases hguarded with ⟨-, rfl⟩ | ⟨guard, hguard, rfl⟩
  · exact hcomparison
  · exact Expr.evaluate_and_true (guard_evaluates hguard hl hr hpn hqn) hcomparison

theorem test?_null_left {op : CompareOp} (hop : Site.testsNull op = true) (w : Value) :
    op.test? .null w = some (w.isNull != (op == .isNot || op == .notEq)) := by
  have hnull : Value.null.isNull = true := rfl
  cases op <;> simp [Site.testsNull] at hop <;>
    simp only [CompareOp.test?, Value.equal_null_left, hnull] <;> cases w.isNull <;> rfl

theorem test?_null_right {op : CompareOp} (hop : Site.testsNull op = true) (v : Value) :
    op.test? v .null = some (v.isNull != (op == .isNot || op == .notEq)) := by
  have hnull : Value.null.isNull = true := rfl
  cases op <;> simp [Site.testsNull] at hop <;>
    simp only [CompareOp.test?, Value.equal_null_right, hnull] <;> cases v.isNull <;> rfl

/-- One comparison of a chain has the result of its operator, where that is defined. -/
theorem Link.evaluates {x y : Term} {op : CompareOp} {s : Bool} (h : Link x (l, a) op y (r, b) e)
    (hx : x.meaning v = some p) (hy : y.meaning v = some q) (hl : l.evaluate v = .ok p)
    (hr : r.evaluate v = .ok q) (hp : HasTyping m p a) (hq : HasTyping m q b)
    (hs : op.test? p q = some s) : e.evaluate v = .ok (.bool s) := by
  have null_of_isNone {t : Term} {w : Value} (ht : t.isNone = true) (hw : t.meaning v = some w) :
      w = .null := by
    obtain rfl := isNone_eq_true ht
    exact (Option.some.inj hw).symm
  cases h with
  | nullLeft hop hnone =>
    obtain rfl := null_of_isNone hnone hx
    rw [test?_null_left hop] at hs
    rw [Expr.evaluate_nullCheck _ hr, Option.some.inj hs]
  | nullRight hop hnone =>
    obtain rfl := null_of_isNone hnone hy
    rw [test?_null_right hop] at hs
    rw [Expr.evaluate_nullCheck _ hl, Option.some.inj hs]
  | values hop h => exact compare_evaluates hop h hl hr hp hq hs

/-- A path of members that has a value has the same one where null is forgiven. -/
theorem memberPath_of_path? {receiver : Term} {path : List String}
    (hpath : Site.path? receiver = some path) (h : receiver.meaning v = some w) :
    v.memberPath path = w := by
  induction receiver using Site.path?.induct generalizing path w with
  | case1 =>
    obtain rfl := Option.some.inj hpath
    exact Option.some.inj h
  | case2 receiver name ih =>
    obtain ⟨before, hbefore, rfl⟩ := Option.map_eq_some_iff.mp hpath
    obtain ⟨x, hx, hw⟩ := Option.bind_eq_some_iff.mp h
    rw [Value.memberPath, List.foldl_concat, ← Value.memberPath, ih hbefore hx]
    exact Value.member_of_held? hw
  | case3 t hself haccess =>
    rw [Site.path?] at hpath
    · cases hpath
    · exact hself
    · exact haccess

namespace Elaborates

variable {t : Term} {τ : Typing}

/-- What an accessor stands for has the value of the accessor, wherever that is defined. -/
theorem preserves (h : Elaborates m c t e τ) (hv : HasType m v (.reference c))
    (hw : t.meaning v = some w) : e.evaluate v = .ok w := by
  have condition {t : Term} {e e' : Expr} {τ : Typing} {w : Value} (h : Elaborates m c t e τ)
      (he' : Typed.condition (e, τ) = .ok e') (he : e.evaluate v = .ok w) :
      e'.evaluate v = .ok (.bool w.isPresent) :=
    condition_evaluates he' he (h.wellTyped.typed hv he) h.wellTyped.isProper
  induction h generalizing w with
  | @constant k s h =>
    cases k <;> cases h <;> exact congrArg Except.ok (Option.some.inj hw)
  | @negative k s n h hn =>
    cases k <;> cases h <;> cases hn <;> exact congrArg Except.ok (Option.some.inj hw)
  | member hpath _ =>
    refine congrArg Except.ok ?_
    refine memberPath_of_path? ?_ hw
    rw [Site.path?, hpath, Option.map_some]
  | @logical conjunction _ _ _ _ _ _ _ _ hleft hl hright hr ihl ihr =>
    have hright {y : Value} (hy : Term.meaning v _ = some y) := condition hright hr (ihr hy)
    cases conjunction with
    | true =>
      obtain ⟨x, hx, hw⟩ := Option.bind_eq_some_iff.mp hw
      have hleft := condition hleft hl (ihl hx)
      cases hpresent : x.isPresent <;>
        simp only [hpresent, Bool.false_eq_true, if_false, if_true] at hw hleft
      · obtain rfl := Option.some.inj hw
        exact Expr.evaluate_and_false hleft
      · obtain ⟨y, hy, hw⟩ := Option.bind_eq_some_iff.mp hw
        obtain rfl := Option.some.inj hw
        exact Expr.evaluate_and_true hleft (hright hy)
    | false =>
      obtain ⟨x, hx, hw⟩ := Option.bind_eq_some_iff.mp hw
      have hleft := condition hleft hl (ihl hx)
      cases hpresent : x.isPresent <;>
        simp only [hpresent, Bool.false_eq_true, if_false, if_true] at hw hleft
      · obtain ⟨y, hy, hw⟩ := Option.bind_eq_some_iff.mp hw
        obtain rfl := Option.some.inj hw
        exact Expr.evaluate_or_false hleft (hright hy)
      · obtain rfl := Option.some.inj hw
        exact Expr.evaluate_or_true hleft
  | not h he ih =>
    obtain ⟨x, hx, hw⟩ := Option.bind_eq_some_iff.mp hw
    obtain rfl := Option.some.inj hw
    exact Expr.evaluate_not (condition h he (ih hx))
  | pair hleft hright hlink ihl ihr =>
    obtain ⟨x, y, s, hx, hy, hs, hw⟩ := Term.meaning_compare hw
    have hxe := ihl hx
    have hye := ihr hy
    have he := hlink.evaluates hx hy hxe hye (hleft.wellTyped.typed hv hxe)
      (hright.wellTyped.typed hv hye) hs
    rcases hw with ⟨rfl, rfl⟩ | ⟨rfl, b, hb, rfl⟩
    · exact he
    · obtain rfl := Option.some.inj hb
      exact he
  | chain hsofar hleft hright hlink ihsofar ihl ihr =>
    obtain ⟨x, y, s, hx, hy, hs, hw⟩ := Term.meaning_compare hw
    rcases hw with ⟨rfl, rfl⟩ | ⟨rfl, b, hb, rfl⟩
    · exact Expr.evaluate_and_false (ihsofar (Term.meaning_compare_false hx hy hs))
    obtain ⟨before, hlinks, hlast⟩ := Source.links_append hy hb
    have hbefore := ihsofar (Term.meaning_compare_true hx hy hs hlinks)
    rcases hlast with ⟨rfl, rfl⟩ | ⟨rfl, p, q, hp, hq, hpq⟩
    · exact Expr.evaluate_and_false hbefore
    · have hpe := ihl hp
      have hqe := ihr hq
      exact Expr.evaluate_and_true hbefore
        (hlink.evaluates hp hq hpe hqe (hleft.wellTyped.typed hv hpe)
          (hright.wellTyped.typed hv hqe) hpq)
  | conditional htest hcondition _ _ _ ihtest ihl ihr =>
    obtain ⟨x, hx, hw⟩ := Option.bind_eq_some_iff.mp hw
    have htestv := condition htest hcondition (ihtest hx)
    cases hpresent : x.isPresent <;>
      simp only [hpresent, Bool.false_eq_true, if_false, if_true] at hw htestv
    · rw [Expr.evaluate_ternary_false htestv]
      exact ihr hw
    · rw [Expr.evaluate_ternary_true htestv]
      exact ihl hw

end Elaborates

/-- Compiling preserves meaning. Where an accessor of a build is accepted, whatever else has been
or will be compiled, its expression has the value of the accessor on every instance on which the
accessor has a value. -/
theorem meaning_preserved {all : List Source.Declaration} {m : Manifest}
    (hm : Resolve.manifest all = .ok m) {before after done : Progress}
    (hbefore : Leads m [] before) {d : ClassDecl} {property : PropertyDecl} {accessor : Accessor}
    (hd : d ∈ m.classes) (hproperty : property ∈ d.computedProperties)
    (haccessor : property.accessor = some accessor)
    (haccepted : (ensure ⟨m, m⟩ d property).outcome before = (.ok (), after))
    (hafter : Leads m after done) {self value : Value}
    (hself : HasType (done.apply m) self (.reference d.name))
    (hvalue : accessor.expression.meaning self = some value) :
    (done.settle d property).expression.evaluate self = .ok value := by
  obtain ⟨r, hr, t, helaborates, -, -⟩ := accepted_means (Resolve.manifest_fresh hm) hbefore hd
    hproperty haccessor haccepted hafter
  rw [hr]
  exact helaborates.preserves hself hvalue

/-- An item with a tag of which the label is its title. -/
theorem meaning_preserved_tagged :
    Sample.same.meaning (Sample.anItem (Sample.aTag (.text "a")) (.text "a")) =
        some (.bool true) ∧
      Sample.sameExpr.evaluate (Sample.anItem (Sample.aTag (.text "a")) (.text "a")) =
        .ok (.bool true) := by
  have hlabel := Sample.aTag_hasType (.present (.text "a"))
  have hself := Sample.anItem_hasType (.present hlabel) (.present (.text "a"))
  have hmeaning : Sample.same.meaning (Sample.anItem (Sample.aTag (.text "a")) (.text "a")) =
      some (.bool true) := rfl
  have haccepted : (ensure ⟨Sample.built, Sample.built⟩ (Sample.itemClass .unresolved .hole)
      (Sample.itemSame .unresolved .hole)).outcome [] =
        (.ok (), [(("Item", "same"), ⟨Sample.sameExpr, .boolean⟩)]) := rfl
  exact ⟨hmeaning, meaning_preserved Sample.built_eq .refl
    (List.mem_cons_of_mem _ (List.mem_singleton_self _)) (List.mem_singleton_self _) rfl
    haccepted .refl hself hmeaning⟩

end Accessor

end ViewModel
