import ViewModel.Proofs.Build.Added
import ViewModel.Proofs.Target.Parsed

/-!
What is printed for Python, read as an accessor. The guards that printing adds to a path make a
conditional expression of it, and the tests for null that an accessor leaves implicit are explicit;
still the accessor is accepted, has the type of the expression and computes the same.
-/

namespace ViewModel

open Accessor
open Source (Term CompareOp Declaration)

variable {m : Manifest} {c : String} {e e' l r : Expr} {τ a b : Typing}

/-! Every expression that an accessor is compiled to is said again as it is printed. -/

/-- No path is empty, and no test for null is one of the constant null. -/
def Expr.Sayable : Expr → Prop
  | hole => False
  | literal _ => True
  | member path _ => path ≠ []
  | not e => e.Sayable
  | nullCheck e _ => e ≠ .literal .null ∧ e.Sayable
  | binary _ l r => l.Sayable ∧ r.Sayable
  | ternary c t f => c.Sayable ∧ t.Sayable ∧ f.Sayable

theorem WellTyped.ne_null (h : WellTyped m c e τ) (hτ : τ ≠ .null) : e ≠ .literal .null := by
  rintro rfl
  cases h with
  | literal => exact hτ rfl

theorem sayable_of_condition (h : WellTyped m c e τ) (he : e.Sayable)
    (hcondition : Typed.condition (e, τ) = .ok e') : e'.Sayable := by
  unfold Typed.condition at hcondition
  split at hcondition
  next heq =>
    split at hcondition
    · cases hcondition
    · obtain ⟨rfl, rfl⟩ := Prod.mk.inj heq
      obtain rfl := Except.ok.inj hcondition
      exact ⟨h.ne_null (by simp), he⟩
  next heq =>
    split at hcondition
    · obtain ⟨rfl, rfl⟩ := Prod.mk.inj heq
      obtain rfl := Except.ok.inj hcondition
      exact he
    · cases hcondition

theorem sayable_of_compare {op : BinaryOp} (hop : op.isLogical = false) (hl : WellTyped m c l a)
    (hr : WellTyped m c r b) (hls : l.Sayable) (hrs : r.Sayable)
    (h : Typed.compare op (l, a) (r, b) = .ok e) : e.Sayable := by
  have ne_null {e : Expr} {τ : Typing} (h : WellTyped m c e τ) (hτ : τ.isNullable = true) :
      e ≠ .literal .null := h.ne_null fun hnull => by simp [hnull, Typing.isNullable] at hτ
  rcases WellTyped.compare_cases hop h with
    ⟨-, -, rfl⟩ | ⟨-, -, -, ⟨-, rfl⟩ | ⟨guard, hguard, rfl⟩⟩
  · exact ⟨hls, hrs⟩
  · exact ⟨hls, hrs⟩
  · refine ⟨?_, hls, hrs⟩
    unfold Typed.guard? at hguard
    split at hguard <;> simp only [Option.some.injEq, reduceCtorEq] at hguard <;> subst hguard
    next ha hb => exact ⟨⟨ne_null hl ha, hls⟩, ne_null hr hb, hrs⟩
    next ha _ => exact ⟨ne_null hl ha, hls⟩
    next _ hb => exact ⟨ne_null hr hb, hrs⟩

theorem sayable_of_link {x y : Term} {op : CompareOp} (hl : WellTyped m c l a)
    (hr : WellTyped m c r b) (hls : l.Sayable ∧ (l = .literal .null → x.isNone = true))
    (hrs : r.Sayable ∧ (r = .literal .null → y.isNone = true)) (htest : TestsValue x op y)
    (hlink : Link x (l, a) op y (r, b) e) : e.Sayable ∧ e ≠ .literal .null := by
  cases hlink with
  | nullLeft hop hnone =>
    have hright := htest hop hnone
    exact ⟨⟨fun hnull => by simp [hrs.2 hnull] at hright, hrs.1⟩, by simp⟩
  | nullRight hop hnone =>
    refine ⟨⟨fun hnull => ?_, hls.1⟩, by simp⟩
    have hright := htest hop (hls.2 hnull)
    rw [hnone] at hright
    cases hright
  | values hop h =>
    have hlogical := isLogical_of_binaryOp? hop
    exact ⟨sayable_of_compare hlogical hl hr hls.1 hrs.1 h,
      (WellTyped.of_compare hlogical hl hr h).ne_null (by simp)⟩

/-- An accessor that makes no test of `None` for null stands for an expression that can be said. -/
theorem Accessor.Elaborates.sayable {t : Term} (h : Elaborates m c t e τ) (ht : TestsValues t) :
    e.Sayable ∧ (e = .literal .null → t.isNone = true) := by
  induction h with
  | @constant k s hk =>
    refine ⟨trivial, fun hnull => ?_⟩
    cases k <;> cases hk <;> first | rfl | cases hnull
  | @negative k s n hk hn =>
    refine ⟨trivial, fun hnull => ?_⟩
    cases k <;> cases hk <;> cases hn <;> cases hnull
  | member => exact ⟨by simp [Expr.Sayable], by simp⟩
  | logical hleft hl hright hr ihl ihr =>
    rw [TestsValues, comparisons, List.forall_mem_append] at ht
    exact ⟨⟨sayable_of_condition hleft.wellTyped (ihl ht.1).1 hl,
      sayable_of_condition hright.wellTyped (ihr ht.2).1 hr⟩, by simp⟩
  | @not operand f f' _ h he ih =>
    rw [TestsValues, comparisons] at ht
    have hs : f'.Sayable := sayable_of_condition h.wellTyped (ih ht).1 he
    exact ⟨hs, by simp⟩
  | pair hleft hright hlink ihl ihr =>
    obtain ⟨htest, hl, hr⟩ := testsValues_compare.mp ht
    obtain ⟨he, hne⟩ := sayable_of_link hleft.wellTyped hright.wellTyped (ihl hl) (ihr hr) htest
      hlink
    exact ⟨he, fun hnull => absurd hnull hne⟩
  | chain hsofar hleft hright hlink ihs ihl ihr =>
    obtain ⟨hs, htest, hl, hr⟩ := testsValues_concat.mp ht
    obtain ⟨he, -⟩ := sayable_of_link hleft.wellTyped hright.wellTyped (ihl hl) (ihr hr) htest hlink
    exact ⟨⟨(ihs hs).1, he⟩, by simp⟩
  | conditional htest hcondition _ _ _ ihc iht ihf =>
    rw [TestsValues, comparisons, List.forall_mem_append, List.forall_mem_append] at ht
    exact ⟨⟨sayable_of_condition htest.wellTyped (ihc ht.1.1).1 hcondition, (iht ht.1.2).1,
      (ihf ht.2).1⟩, by simp⟩

theorem phrase_ne_null (he : e ≠ .literal .null) (hs : e.Sayable) :
    pythonReading.phrase e ≠ .literal .null := by
  intro h
  cases e with
  | hole => exact hs
  | literal s => exact he (congrArg Expr.literal (Phrase.literal.inj h))
  | member path nullSafe =>
    change guardedPath path nullSafe = _ at h
    unfold guardedPath at h
    split at h <;> cases h
  | _ => cases h

/-- The recursion is that of the rules of typing: each form is said again from what its parts say,
and the guard before a comparison by order is then there twice. -/
theorem WellTyped.restated (h : WellTyped m c e τ) (hs : e.Sayable) :
    Restated m c (pythonReading.phrase e) e τ := by
  induction h with
  | literal s => exact .literal s
  | member hpath => exact .guarded hs hpath
  | nullCheck negated _ ih => exact (ih hs.2).nullTest (phrase_ne_null hs.1 hs.2) negated
  | not _ ih => exact (ih hs).negated
  | logical hop _ _ ihl ihr => exact .logical hop (ihl hs.1) (ihr hs.2)
  | @equality op _ _ _ _ hop _ _ hcomparable ihl ihr =>
    have hlogical : op.isLogical = false := by rcases hop with rfl | rfl <;> rfl
    exact .comparison hlogical (ihl hs.1) (ihr hs.2) (compare_of_equality hop hcomparable)
  | @ordering op l r a b hop _ _ ha hb ihl ihr =>
    obtain ⟨hleft, hleft'⟩ := stripNull_of_isNumeric ha
    obtain ⟨hright, hright'⟩ := stripNull_of_isNumeric hb
    have hcompare := compare_of_ordering (l := l) (r := r) hop (hleft ▸ ha) (hright ▸ hb)
    rw [Typed.guard?, hleft', hright'] at hcompare
    exact .comparison (BinaryOp.isLogical_of_isOrdering hop) (ihl hs.1) (ihr hs.2) hcompare
  | @guarded op l r guard a b hop hl hr ha hb hguard htest ihl ihr ihtest =>
    have hcompare := compare_of_ordering (l := l) (r := r) hop ha hb
    rw [hguard] at hcompare
    have hcomparison := Restated.comparison (BinaryOp.isLogical_of_isOrdering hop) (ihl hs.2.1)
      (ihr hs.2.2) hcompare
    have hand : BinaryOp.and.isLogical = true := rfl
    refine (Restated.logical hand (ihtest hs.1) hcomparison).of_evaluates fun v hv => ?_
    obtain ⟨x, hx, hxt⟩ := htest.evaluates hv
    obtain ⟨y, hy, hyt⟩ := (WellTyped.guarded hop hl hr ha hb hguard htest).evaluates hv
    obtain ⟨p, rfl⟩ := hxt.boolean_cases
    obtain ⟨q, rfl⟩ := hyt.boolean_cases
    exact Expr.evaluate_and_and hx hy
  | ternary _ _ _ hagree ihc ihl ihr =>
    exact .conditional (ihc hs.1) (ihl hs.2.1) (ihr hs.2.2) hagree

/-- How Python reads what is printed for an expression: the text is that of words that can be read,
it is split into these words if the names of the expression are names in it, and whoever reads them
finds the term. Where the words are legible the text is an expression of a class source, and it is
read as the term. -/
structure Python.ReadAs (e : Expr) (t : Term) : Prop where
  printed : Dialect.python.print e = .ok (Piece.textOf .python (Dialect.python.pieces e))
  split : e.Named → pythonReading.words? pythonReading.constant?
    (Piece.textOf .python (Dialect.python.pieces e)) = some (Dialect.python.pieces e)
  readable : ∃ n s, pythonGrammar.Reads n (Dialect.python.pieces e) s
  term : ∀ n s, pythonGrammar.Reads n (Dialect.python.pieces e) s → s.term? = some t
  parsed : Legible (Dialect.python.pieces e) →
    Source.readExpression? (Piece.textOf .python (Dialect.python.pieces e)) = some t

theorem Python.readAs_of_phrase {t : Term} (hcomplete : e.isComplete = true)
    (hfinite : ∀ s ∈ e.literals, s.isFinite = true)
    (ht : (pythonReading.phrase e).term? = some t) : Python.ReadAs e t := by
  have hreads := pythonReading.reads hcomplete hfinite
  refine ⟨if_pos hcomplete, fun hnamed => pythonReading.words?_pieces python_spells hnamed hreads,
    ⟨_, _, hreads⟩, fun n s hs => ?_, hreads.readExpression?_textOf ht⟩
  obtain rfl := hs.unique hreads
  exact ht

namespace Manifest

variable {m' : Manifest} {d : ClassDecl} {p : PropertyDecl}

/-- The accessors of a manifest that is compiled make no test of `None` for null. -/
theorem compiled_tests (hm : m.Fresh) (hcompile : m.compile = .ok m') (hd : d ∈ m'.classes)
    (hp : p ∈ d.computedProperties) {a : Accessor} (ha : p.accessor = some a) :
    TestsValues a.expression := by
  obtain ⟨done, rfl, hbuilt, hdone⟩ := compile_built hm hcompile
  obtain ⟨c, hc, q, hq, r, rfl, hr, rfl⟩ := exists_entry hm hdone hd hp
  obtain ⟨before, a', ha', hcompiled⟩ := hbuilt.accepted hm hc hq hr
  obtain rfl := Option.some.inj (ha.symm.trans ha')
  apply compile_tests a before r
  rw [hcompiled]
  rfl

/-- What is printed for Python for a computed property is an accessor that its class may have as
well. With the accessor under a new name the declarations are accepted as without it, and nothing
else changes. The accessor has the type that the accessor of the property has where it declares
none, and on every instance of the class it has the value of the property. -/
theorem printed_reread {all : List Declaration} (hm : Resolve.manifest all = .ok m)
    (hcompile : m.compile = .ok m') (hd : d ∈ m'.classes) (hp : p ∈ d.computedProperties)
    (hfinite : ∀ s ∈ p.expression.literals, s.isFinite = true) {name : String}
    (hnew : m.IsNew d.name name) (line : Nat) :
    ∃ a t τ e, p.accessor = some a ∧ (p.type = τ ∨ p.type = τ.orNull) ∧
      Python.ReadAs p.expression t ∧
      Resolve.compiled (Resolve.withAccessor all d.name name line ⟨a.expression, none⟩) =
        .ok (m'.withProperty d.name (settled ⟨a.expression, none⟩ name ⟨p.expression, τ⟩)) ∧
      Resolve.compiled (Resolve.withAccessor all d.name name line ⟨t, none⟩) =
        .ok (m'.withProperty d.name (settled ⟨t, none⟩ name ⟨e, τ⟩)) ∧
      ∀ self, HasType m' self (.reference d.name) →
        ∃ value, p.expression.evaluate self = .ok value ∧ e.evaluate self = .ok value := by
  have hfresh := Resolve.manifest_fresh hm
  obtain ⟨a, τ, ha, helaborates, hτ⟩ := compiled_means hfresh hcompile hd hp
  have htests := compiled_tests hfresh hcompile hd hp ha
  have htyped := helaborates.wellTyped
  obtain ⟨t, e, h⟩ := htyped.restated (helaborates.sayable htests).1
  refine ⟨a, t, τ, e, ha, hτ, Python.readAs_of_phrase htyped.isComplete hfinite h.term, ?_, ?_,
    fun self hself => ?_⟩
  · exact Resolve.compiled_withAccessor hm hcompile hd hnew helaborates htests rfl
  · exact Resolve.compiled_withAccessor hm hcompile hd hnew h.elaborates h.tests rfl
  · obtain ⟨value, hvalue, -⟩ := htyped.evaluates hself
    exact ⟨value, hvalue, (h.evaluates self hself).trans hvalue⟩

end Manifest

namespace Sample

/-- What is printed for `same`: the label behind the test for a tag, compared with the title. -/
def again : Term :=
  .compare
    (.conditional (.compare (.access (.name "self") "tag") .isNot (.constant .none) [])
      (.access (.access (.name "self") "tag") "label") (.constant .none))
    .eq (.access (.name "self") "title") []

end Sample

/-- The text of `same` as the accessor `again`, on an item without a tag. -/
theorem Manifest.printed_reread_untagged : ∃ e,
    Python.ReadAs Sample.sameExpr Sample.again ∧
      Source.readExpression? "(self.tag.label if self.tag is not None else None) == self.title" =
        some Sample.again ∧
      Resolve.compiled (Resolve.withAccessor [Sample.tag, Sample.item] "Item" "again" 12
          ⟨Sample.again, none⟩) =
        .ok (Sample.compiled.withProperty "Item"
          (settled ⟨Sample.again, none⟩ "again" ⟨e, .boolean⟩)) ∧
      ∃ value, Sample.sameExpr.evaluate (Sample.anItem .null (.text "a")) = .ok value ∧
        e.evaluate (Sample.anItem .null (.text "a")) = .ok value := by
  have hnew : Sample.built.IsNew "Item" "again" := by decide
  obtain ⟨a, t, τ, e, -, hτ, hread, -, hcompiled, hvalue⟩ :=
    Manifest.printed_reread Sample.built_eq Sample.compiled_eq
      (List.mem_cons_of_mem _ (List.mem_singleton_self _)) (List.mem_singleton_self _)
      (fun s hs => by cases hs) hnew 12
  obtain rfl : τ = .boolean := by
    rcases hτ with hτ | hτ
    · exact hτ.symm
    · cases τ <;> cases hτ
  obtain rfl : Sample.again = t := by
    have hreads := pythonReading.reads (e := Sample.sameExpr) rfl (fun s hs => by cases hs)
    exact Option.some.inj (hread.term _ _ hreads)
  have hparsed := hread.parsed ⟨by decide, by decide⟩
  have hitem := Sample.anItem_hasType (.null _) (.present (.text "a"))
  exact ⟨e, hread, hparsed, hcompiled, hvalue _ hitem⟩

/-- The words that are read stand in this order. -/
example : Dialect.python.print Sample.sameExpr =
    .ok "(self.tag.label if self.tag is not None else None) == self.title" := by
  decide +kernel

end ViewModel
