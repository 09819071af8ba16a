import ViewModel.Proofs.Accessor.Members

/-!
Which accessors are accepted. A site that knows the types of all members takes every term that
stands for an expression, to that expression and its type, unless the term compares `None` with
`None`.
-/

namespace ViewModel.Accessor

open Source (Term CompareOp Constant)

variable {m : Manifest} {c : String} {site : Site} {t : Term} {e : Expr} {τ : Typing}

mutual

/-- The comparisons that a term makes, each between its operands. -/
def comparisons : Term → List (Term × CompareOp × Term)
  | .logical _ left right => comparisons left ++ comparisons right
  | .unary _ t => comparisons t
  | .compare first op second more =>
      (first, op, second) :: (comparisons first ++ comparisons second) ++ chained second more
  | .conditional test whenTrue whenFalse =>
      comparisons test ++ comparisons whenTrue ++ comparisons whenFalse
  | _ => []

def chained : Term → List (CompareOp × Term) → List (Term × CompareOp × Term)
  | _, [] => []
  | left, (op, t) :: rest => (left, op, t) :: comparisons t ++ chained t rest

end

/-- The comparison is no test of `None` for null. -/
def TestsValue (x : Term) (op : CompareOp) (y : Term) : Prop :=
  Site.testsNull op = true → x.isNone = true → y.isNone = false

/-- No comparison that the term makes is a test of `None` for null. -/
def TestsValues (t : Term) : Prop := ∀ l ∈ comparisons t, TestsValue l.1 l.2.1 l.2.2

theorem chained_append (left t : Term) (op : CompareOp) (more : List (CompareOp × Term)) :
    chained left (more ++ [(op, t)]) =
      chained left more ++ (lastOperand left more, op, t) :: comparisons t := by
  induction more generalizing left with
  | nil => simp [chained, lastOperand]
  | cons link more ih =>
    obtain ⟨op', s⟩ := link
    simp [chained, ih, lastOperand_cons]

theorem comparisons_lastOperand (second : Term) (more : List (CompareOp × Term)) :
    comparisons (lastOperand second more) ⊆ comparisons second ++ chained second more := by
  induction more generalizing second with
  | nil => simp [chained, lastOperand]
  | cons link more ih =>
    obtain ⟨op, t⟩ := link
    rw [lastOperand_cons, chained, List.cons_append]
    exact List.Subset.trans (ih t) fun l hl =>
      List.mem_append_right _ (List.mem_cons_of_mem _ hl)

theorem testsValues_constant (k : Constant) : TestsValues (.constant k) := by
  intro l hl
  simp [comparisons] at hl

theorem testsValues_of_isNone (h : t.isNone = true) : TestsValues t :=
  isNone_eq_true h ▸ testsValues_constant .none

theorem testsValues_compare {first second : Term} {op : CompareOp} :
    TestsValues (.compare first op second []) ↔
      TestsValue first op second ∧ TestsValues first ∧ TestsValues second := by
  simp [TestsValues, comparisons, chained, or_imp, forall_and]

theorem testsValues_concat {first second last : Term} {op op' : CompareOp}
    {more : List (CompareOp × Term)} :
    TestsValues (.compare first op second (more ++ [(op', last)])) ↔
      TestsValues (.compare first op second more) ∧
        TestsValue (lastOperand second more) op' last ∧
          TestsValues (lastOperand second more) ∧ TestsValues last := by
  have hlast (h : TestsValues (.compare first op second more)) :
      TestsValues (lastOperand second more) := by
    rw [TestsValues, comparisons, List.cons_append, List.append_assoc] at h
    intro l hl
    exact h l (List.mem_cons_of_mem _
      (List.mem_append_right _ (comparisons_lastOperand second more hl)))
  have hmore : comparisons (.compare first op second (more ++ [(op', last)])) =
      comparisons (.compare first op second more) ++
        (lastOperand second more, op', last) :: comparisons last := by
    simp [comparisons, chained_append]
  rw [TestsValues, hmore, List.forall_mem_append, List.forall_mem_cons]
  constructor
  · rintro ⟨hmore, htest, ht⟩
    exact ⟨hmore, htest, hlast hmore, ht⟩
  · rintro ⟨hmore, htest, -, ht⟩
    exact ⟨hmore, htest, ht⟩

/-! Terms that are accepted make no such test. -/

theorem comparison_tests {x y : Term} (hx : Returns (site.emit x) fun _ => TestsValues x)
    (hy : Returns (site.emit y) fun _ => TestsValues y) (op : CompareOp) :
    Returns (site.comparison ⟨x.isNone, site.emit x⟩ op ⟨y.isNone, site.emit y⟩)
      fun _ => TestsValue x op y ∧ TestsValues x ∧ TestsValues y := by
  unfold Site.comparison
  dsimp only
  split
  · split
    · exact .fail _
    next hboth =>
    have htest : TestsValue x op y := by
      intro _ hnone
      simpa [hnone] using hboth
    split
    next hnone =>
      exact .bind hy fun r hr => .pure ⟨htest, testsValues_of_isNone hnone, hr⟩
    next hvalue hnone =>
      have hright : y.isNone = true := by simp_all
      exact .bind hx fun r hr => .pure ⟨htest, hr, testsValues_of_isNone hright⟩
  next hvalues =>
  split
  · exact .fail _
  split
  · exact .fail _
  have htest : TestsValue x op y := by
    intro hop hnone
    simp [hop, hnone] at hvalues
  refine .bind hx fun l hl => ?_
  refine .bind hy fun r hr => ?_
  exact .lift fun _ _ => ⟨htest, hl, hr⟩

theorem chain_tests (more : List (CompareOp × Term)) {left : Term} (sofar : Expr)
    (hleft : Returns (site.emit left) fun _ => TestsValues left)
    (hmore : ∀ p ∈ more, Returns (site.emit p.2) fun _ => TestsValues p.2) :
    Returns (site.chain sofar ⟨left.isNone, site.emit left⟩ (site.operands more))
      fun _ => ∀ l ∈ chained left more, TestsValue l.1 l.2.1 l.2.2 := by
  induction more generalizing left sofar with
  | nil => exact .pure fun l hl => by simp [chained] at hl
  | cons p more ih =>
    obtain ⟨op, t⟩ := p
    have ht := hmore (op, t) List.mem_cons_self
    simp only [Site.operands, Site.chain]
    refine .bind (comparison_tests hleft ht op) fun e he => ?_
    intro done r hr
    have hrest := ih (.binary .and sofar e) ht
      (fun q hq => hmore q (List.mem_cons_of_mem _ hq)) done r hr
    rw [chained]
    refine List.forall_mem_append.mpr ⟨List.forall_mem_cons.mpr ⟨he.1, he.2.2⟩, hrest⟩

mutual

theorem emit_tests : ∀ t : Term, Returns (site.emit t) fun _ => TestsValues t
  | .constant k => fun _ _ _ => testsValues_constant k
  | .access .. | .name _ | .call _ | .subscript .. | .arithmetic .. | .list _ | .tuple _
  | .starred _ | .other _ => fun _ _ _ l hl => by simp [comparisons] at hl
  | .logical conjunction left right => by
    rw [Site.emit]
    refine .bind (emit_tests left) fun l hl => ?_
    refine .bind (Returns.any _) fun l' _ => ?_
    refine .bind (emit_tests right) fun r hr => ?_
    refine .bind (Returns.any _) fun r' _ => .pure ?_
    rw [TestsValues, comparisons]
    exact List.forall_mem_append.mpr ⟨hl, hr⟩
  | .unary .not operand => by
    rw [Site.emit]
    refine .bind (emit_tests operand) fun r hr => ?_
    exact .bind (Returns.any _) fun e _ => .pure hr
  | .unary .minus operand => by
    cases operand with
    | constant k => exact fun _ _ _ => testsValues_constant k
    | _ => rw [Site.emit] <;> first | exact .fail _ | simp
  | .unary .plus _ | .unary .invert _ => by
    rw [Site.emit] <;> first | exact .fail _ | simp
  | .compare first op second more => by
    rw [Site.emit]
    refine .bind (comparison_tests (emit_tests first) (emit_tests second) op) fun e he => ?_
    intro done r hr
    have hmore := chain_tests more e (emit_tests second) (operands_tests more) done r hr
    rw [TestsValues, comparisons]
    refine List.forall_mem_append.mpr ⟨List.forall_mem_cons.mpr ⟨he.1, ?_⟩, hmore⟩
    exact List.forall_mem_append.mpr he.2
  | .conditional test whenTrue whenFalse => by
    rw [Site.emit]
    refine .bind (emit_tests test) fun c hc => ?_
    refine .bind (Returns.any _) fun c' _ => ?_
    refine .bind (emit_tests whenTrue) fun t ht => ?_
    refine .bind (emit_tests whenFalse) fun f hf => ?_
    refine .bind (Returns.any _) fun τ _ => .pure ?_
    rw [TestsValues, comparisons]
    exact List.forall_mem_append.mpr ⟨List.forall_mem_append.mpr ⟨hc, ht⟩, hf⟩

theorem operands_tests : ∀ more : List (CompareOp × Term), ∀ p ∈ more,
    Returns (site.emit p.2) fun _ => TestsValues p.2
  | [], _, hp => by simp at hp
  | (_, t) :: rest, p, hp => by
    rcases List.mem_cons.mp hp with rfl | hp
    · exact emit_tests t
    · exact operands_tests rest p hp

end

theorem compile_tests (a : Accessor) :
    Returns (site.compile a) fun _ => TestsValues a.expression := by
  refine .bind (emit_tests a.expression) fun r hr => ?_
  split
  · exact .fail _
  · exact .bind (Returns.any _) fun u _ => .pure hr

/-! Terms that make no such test are accepted. -/

/-- A comparison of values that could be a test for null is an equality, which takes no bare
null. -/
theorem typings_of_testsNull {op : CompareOp} {operator : BinaryOp} {l r : Expr} {a b : Typing}
    (hop : Site.binaryOp? op = some operator) (h : Typed.compare operator (l, a) (r, b) = .ok e)
    (htests : Site.testsNull op = true) : a ≠ .null ∧ b ≠ .null := by
  have hordering : operator.isOrdering = false := by
    cases op <;> simp [Site.testsNull] at htests <;> cases hop <;> rfl
  rcases WellTyped.compare_cases (isLogical_of_binaryOp? hop) h with
    ⟨-, hcomparable, -⟩ | ⟨htrue, -⟩
  · obtain ⟨j, k, hj, hk, -⟩ := Typed.checkEquality_eq_ok hcomparable
    constructor
    · rintro rfl
      cases hj
    · rintro rfl
      cases hk
  · rw [hordering] at htrue
    cases htrue

/-- A site that knows the type of every member. -/
structure Site.Knows (m : Manifest) (site : Site) : Prop where
  own : ∀ {name t}, m.HasMember site.owner.name name t →
    ∀ path, site.memberType site.owner path name = pure t
  visible : ∀ {c name t}, m.HasMember c name t → ∃ receiver,
    site.scope.visible.class? c = some receiver ∧
      ∀ path, site.memberType receiver path name = pure t

namespace Site.Knows

theorem follow (h : site.Knows m) (path : List String) (nullSafe : List Int) {rest : List String}
    {leaf u : TypeRef} {more : List Int} (hpath : PathType m path.length leaf rest more u) :
    site.follow path leaf nullSafe rest =
      pure (u.alongPath (nullSafe ++ more), nullSafe ++ more) := by
  generalize hi : path.length = i at hpath
  induction hpath generalizing path nullSafe with
  | nil => simp [Site.follow, TypeRef.alongPath]
  | @strict _ _ name _ _ _ _ hmember _ ih =>
    obtain ⟨receiver, hclass, htype⟩ := h.visible hmember
    have hrest := ih (path ++ [name]) nullSafe (by simp [hi])
    simp only [Site.follow, TypeRef.stripNull, hclass, htype, pure_bind]
    simpa [TypeRef.isNullable] using hrest
  | @safe i _ name _ _ _ _ hmember _ ih =>
    obtain ⟨receiver, hclass, htype⟩ := h.visible hmember
    have hrest := ih (path ++ [name]) (nullSafe ++ [(i : Int)]) (by simp [hi])
    simp only [Site.follow, TypeRef.stripNull, hclass, htype, pure_bind]
    simpa [TypeRef.isNullable, hi] using hrest

theorem member (h : site.Knows m) {path : List String} {nullSafe : List Int} {t : TypeRef}
    (hne : path ≠ []) (hpath : PathType m 0 (.reference site.owner.name) path nullSafe t) :
    site.member path = pure (.member path nullSafe, .known (t.alongPath nullSafe)) := by
  cases hpath with
  | nil => exact absurd rfl hne
  | @strict _ _ name _ _ _ _ hmember hrest =>
    have hfollow := h.follow [name] [] hrest
    simp only [Site.member, h.own hmember, hfollow, pure_bind, List.nil_append]

theorem constant {k : Constant} {s : Scalar} (hk : k.scalar? = some s) :
    site.constant k = pure (.literal s, s.typing) := by
  cases k <;> cases hk <;> rfl

theorem negative {k : Constant} {s n : Scalar} (hk : k.scalar? = some s)
    (hn : s.negated? = some n) : site.negative k = pure (.literal n, n.typing) := by
  cases k <;> cases hk <;> cases hn <;> rfl

theorem comparison {x y : Term} {op : CompareOp} {l r : Expr} {a b : Typing}
    (hx : site.emit x = pure (l, a)) (hy : site.emit y = pure (r, b))
    (hnoneLeft : x.isNone = true → a = .null) (hnoneRight : y.isNone = true → b = .null)
    (htest : TestsValue x op y) (hlink : Link x (l, a) op y (r, b) e) :
    site.comparison ⟨x.isNone, site.emit x⟩ op ⟨y.isNone, site.emit y⟩ = pure e := by
  cases hlink with
  | nullLeft hop hnone =>
    have hright := htest hop hnone
    simp [Site.comparison, hop, hnone, hright, hy]
  | nullRight hop hnone =>
    have hleft : x.isNone = false := by
      cases hx : x.isNone with
      | false => rfl
      | true => simpa [hnone] using htest hop hx
    simp [Site.comparison, hop, hnone, hleft, hx]
  | @values _ _ _ _ operator _ hop h =>
    have hidentity : Site.isIdentity op = false := by
      cases op <;> simp [Site.binaryOp?] at hop <;> rfl
    have hvalues : (Site.testsNull op && (x.isNone || y.isNone)) = false := by
      rw [Bool.and_eq_false_imp]
      intro htests
      obtain ⟨ha, hb⟩ := typings_of_testsNull hop h htests
      rw [Bool.or_eq_false_iff]
      exact ⟨Bool.eq_false_iff.mpr fun hnone => ha (hnoneLeft hnone),
        Bool.eq_false_iff.mpr fun hnone => hb (hnoneRight hnone)⟩
    simp only [Site.comparison, hvalues, hidentity, hop, hx, hy, pure_bind, h, Site.lift,
      Bool.false_eq_true, if_false]

theorem chain_concat (more : List (CompareOp × Term)) (op : CompareOp) (left last : Term)
    (sofar : Expr) :
    site.chain sofar ⟨left.isNone, site.emit left⟩ (site.operands (more ++ [(op, last)])) =
      site.chain sofar ⟨left.isNone, site.emit left⟩ (site.operands more) >>= fun r => do
        let e ← site.comparison ⟨(lastOperand left more).isNone,
          site.emit (lastOperand left more)⟩ op ⟨last.isNone, site.emit last⟩
        return (.binary .and r.1 e, .known .boolean) := by
  induction more generalizing left sofar with
  | nil => simp [Site.operands, Site.chain, lastOperand]
  | cons link more ih =>
    obtain ⟨op', t⟩ := link
    simp only [List.cons_append, Site.operands, Site.chain, bind_assoc, ih, lastOperand_cons]

end Site.Knows

theorem Elaborates.typing_of_isNone (h : Elaborates m c t e τ) (ht : t.isNone = true) :
    τ = .null := by
  obtain rfl := isNone_eq_true ht
  cases h with
  | constant hk =>
    cases hk
    rfl

/-- A term that stands for an expression compiles to it, wherever the members have their types and
the term does not compare `None` with `None`. -/
theorem Elaborates.emits (h : Elaborates m c t e τ) (hsite : site.Knows m)
    (howner : site.owner.name = c) (ht : TestsValues t) : site.emit t = pure (e, τ) := by
  subst howner
  induction h with
  | constant hk =>
    rw [Site.emit]
    exact Site.Knows.constant hk
  | negative hk hn =>
    rw [Site.emit]
    exact Site.Knows.negative hk hn
  | @member receiver name path nullSafe t hpath h =>
    simp only [Site.emit, hpath]
    exact hsite.member (by simp) h
  | @logical conjunction left right l r l' r' a b hleft hl hright hr ihl ihr =>
    rw [TestsValues, comparisons, List.forall_mem_append] at ht
    simp only [Site.emit, ihl ht.1, ihr ht.2, pure_bind, hl, hr, Site.lift]
  | @not operand e e' a h he ih =>
    rw [TestsValues, comparisons] at ht
    simp only [Site.emit, ih ht, pure_bind, he, Site.lift]
  | @pair first second op l r e a b hleft hright hlink ihl ihr =>
    obtain ⟨htest, hfirst, hsecond⟩ := testsValues_compare.mp ht
    have hl := ihl hfirst
    have hr := ihr hsecond
    have hcomparison := Site.Knows.comparison hl hr hleft.typing_of_isNone
      hright.typing_of_isNone htest hlink
    simp only [Site.emit, Site.operands, hcomparison, pure_bind, Site.chain]
  | @chain first second last op op' more sofar l r e a b hsofar hleft hright hlink ihs ihl ihr =>
    obtain ⟨hbefore, htest, hoperand, hlast⟩ := testsValues_concat.mp ht
    have hs := ihs hbefore
    have hl := ihl hoperand
    have hr := ihr hlast
    have hcomparison := Site.Knows.comparison hl hr hleft.typing_of_isNone
      hright.typing_of_isNone htest hlink
    rw [Site.emit] at hs ⊢
    simp only [Site.Knows.chain_concat, ← bind_assoc, hs, pure_bind, hcomparison]
  | @conditional test whenTrue whenFalse e e' l r s a b t htest hcondition htrue hfalse hagree ihc
      iht ihf =>
    rw [TestsValues, comparisons, List.forall_mem_append, List.forall_mem_append] at ht
    simp only [Site.emit, ihc ht.1.1, iht ht.1.2, ihf ht.2, pure_bind, hcondition, hagree,
      Site.lift]

/-! Where the types of the properties are those that are compiled. -/

variable {done : Progress} {d : ClassDecl} {name : String}

theorem known_knows (hm : m.Fresh) (hd : d ∈ m.classes) :
    (siteOf m d name (known done)).Knows (done.apply m) := by
  have visible {c segment : String} {t : TypeRef} (h : (done.apply m).HasMember c segment t) :
      ∃ receiver, m.class? c = some receiver ∧
        ∀ path, (siteOf m d name (known done)).memberType receiver path segment = pure t := by
    obtain ⟨receiver, owner, q, hreceiver, howner, hq, ht, hproper⟩ :=
      Progress.hasMember_apply.mp h
    have howned := Manifest.mem_of_owner? (Manifest.mem_of_class? hreceiver) howner
    have hfresh := hm.properties owner howned q (ClassDecl.mem_of_property? hq)
    rw [Progress.settle_type hfresh] at ht
    have hdone : isDone done owner q = true := by
      rw [isDone_eq_true hfresh, or_iff_not_imp_left]
      intro hcomputed
      rw [Bool.not_eq_false] at hcomputed
      exact Progress.lookup_of_typeOf hfresh hcomputed (ht ▸ TypeRef.ne_unresolved hproper)
    refine ⟨receiver, hreceiver, fun path => ?_⟩
    simp only [Site.memberType, howner, hq]
    exact known_eq_pure.mpr ⟨hdone, ht.symm⟩
  refine ⟨fun h => ?_, visible⟩
  obtain ⟨receiver, hreceiver, htype⟩ := visible h
  rw [Manifest.class?_eq_some hm.names hd] at hreceiver
  exact Option.some.inj hreceiver ▸ htype

/-- The type that an accessor declares, if it may, and the one that is inferred otherwise. -/
def declared (names : List String) (inferred : TypeRef) :
    Option Term → Except BuildError.Cause TypeRef
  | none => .ok inferred
  | some hint => do
      let u ← Hint.type names hint
      if u = inferred ∨ u = inferred.orNull then .ok u else .error (.otherType u inferred)

theorem declaredType_eq (site : Site) (inferred : TypeRef) (hint : Option Term) :
    site.declaredType inferred hint =
      site.lift (declared site.scope.visible.names inferred hint) := by
  cases hint with
  | none => rfl
  | some hint =>
    rw [Site.declaredType, declared]
    cases Hint.type site.scope.visible.names hint with
    | error cause => rfl
    | ok u =>
      show (if _ then _ else _) = site.lift (if _ then _ else _)
      split <;> rfl

/-- An accessor is accepted exactly where it stands for an expression, makes no test of `None` for
null and declares no other type than it has. -/
theorem compile_eq_pure_iff (hm : m.Fresh) (hd : d ∈ m.classes) (hsound : done.Sound m)
    {a : Accessor} {r : Compiled} :
    (siteOf m d name (known done)).compile a = pure r ↔
      ∃ t, Elaborates (done.apply m) d.name a.expression r.expression (.known t) ∧
        TestsValues a.expression ∧ declared m.names t a.returns = .ok r.type := by
  constructor
  · intro h
    have hout : ((siteOf m d name (known done)).compile a).outcome done = (.ok r, done) :=
      h ▸ Compile.outcome_pure r done
    have htests := compile_tests a done r (congrArg Prod.fst hout)
    obtain ⟨hsame, -, hemit⟩ := (known_sound hm hd hsound name).emit a.expression done rfl trivial
    rw [Site.compile, Compile.outcome_bind] at hout
    rcases hx : ((siteOf m d name (known done)).emit a.expression).outcome done with ⟨x, after⟩
    rw [hx] at hout hsame hemit
    obtain rfl : after = done := hsame
    match x with
    | .error e => cases hout
    | .ok (e, .null) => cases hout
    | .ok (e, .known t) =>
      have helaborates := hemit (e, .known t) rfl
      dsimp only at hout
      rw [declaredType_eq] at hout
      cases hdeclared : declared m.names t a.returns with
      | error cause =>
        rw [hdeclared] at hout
        cases hout
      | ok u =>
        rw [hdeclared] at hout
        cases hout
        exact ⟨t, helaborates, htests, hdeclared⟩
  · rintro ⟨t, helaborates, htests, hdeclared⟩
    have hknows : (siteOf m d name (known done)).Knows (done.apply m) := known_knows hm hd
    have hemit := helaborates.emits hknows rfl htests
    simp only [Site.compile, hemit, pure_bind, declaredType_eq, hdeclared, Site.lift]

end ViewModel.Accessor
