import ViewModel.Proofs.Accessor.Soundness
import ViewModel.Proofs.Target.Javascript

/-!
The accessors that are printed for TypeScript compute what the evaluator computes, except that an
equality of two nulls is false where just one of them is absent. What they compute then is the
value of the expression in which every such equality is settled as different.
-/

namespace ViewModel

namespace Expr

def isNull (v : Value) (e : Expr) : Bool :=
  match e.evaluate v with
  | .ok w => w.isNull
  | .error _ => false

/-- Two operands that are null, just one of them for want of a receiver. -/
def apart (v : Value) (l r : Expr) : Bool :=
  l.isNull v && r.isNull v && l.absent v != r.absent v

/-- The expression with every equality settled as different of which the operands are apart. -/
def toldApart (v : Value) : Expr → Expr
  | nullCheck e negated => nullCheck (e.toldApart v) negated
  | not e => not (e.toldApart v)
  | binary op l r =>
      if (op = .equals ∨ op = .notEquals) ∧ (l.toldApart v).apart v (r.toldApart v) then
        literal (.bool (op = .notEquals))
      else binary op (l.toldApart v) (r.toldApart v)
  | ternary c t f => ternary (c.toldApart v) (t.toldApart v) (f.toldApart v)
  | e => e

variable {v x y : Value} {e l r guard : Expr} {op : BinaryOp} {a b : Typing}
  {exact : Scalar → Prop}

theorem isNull_of_evaluate (h : e.evaluate v = .ok x) : e.isNull v = x.isNull := by
  rw [isNull, h]

/-- What operands have that are apart. -/
theorem apart_iff (hl : l.evaluate v = .ok x) (hr : r.evaluate v = .ok y) :
    l.apart v r = true ↔ Js.Apart (l.absent v) x (r.absent v) y := by
  simp [apart, Js.Apart, isNull_of_evaluate hl, isNull_of_evaluate hr, and_assoc]

theorem toldApart_logical (hop : op.isLogical = true) :
    (binary op l r).toldApart v = binary op (l.toldApart v) (r.toldApart v) := by
  rw [toldApart, if_neg]
  rintro ⟨rfl | rfl, -⟩ <;> cases hop

theorem toldApart_ordering (hop : op.isOrdering = true) :
    (binary op l r).toldApart v = binary op (l.toldApart v) (r.toldApart v) := by
  rw [toldApart, if_neg]
  rintro ⟨rfl | rfl, -⟩ <;> cases hop

theorem toldApart_guard? (h : Typed.guard? (l, a) (r, b) = some guard) :
    Typed.guard? (l.toldApart v, a) (r.toldApart v, b) = some (guard.toldApart v) := by
  unfold Typed.guard? at h ⊢
  split at h <;> simp only [Option.some.injEq, reduceCtorEq] at h <;> subst h <;>
    simp [*, toldApart]

/-- No equality is left of which the operands are apart. -/
theorem settled_toldApart (hliterals : ∀ s ∈ e.literals, exact s) (hbool : ∀ p, exact (.bool p)) :
    (e.toldApart v).Settled exact Js.Apart v := by
  have settled_literal {s : Scalar} (hs : exact s) :
      (literal s).Settled exact Js.Apart v := by
    intro e he
    obtain rfl := List.mem_singleton.mp he
    exact hs
  induction e with
  | hole | member =>
    intro e he
    obtain rfl := List.mem_singleton.mp he
    trivial
  | literal s => exact settled_literal (hliterals s (List.mem_singleton_self s))
  | nullCheck e negated ih =>
    refine .of_parts [e.toldApart v] (by simpa using ih hliterals) (fun s hs => ?_) trivial
    simpa [toldApart, reached] using hs
  | not e ih =>
    refine .of_parts [e.toldApart v] (by simpa using ih hliterals) (fun s hs => ?_) trivial
    simpa [toldApart, reached] using hs
  | binary op l r ihl ihr =>
    rw [toldApart]
    split
    · exact settled_literal (hbool _)
    next happly =>
    have hl := ihl fun s hs => hliterals s (List.mem_append_left _ hs)
    have hr := ihr fun s hs => hliterals s (List.mem_append_right _ hs)
    refine .of_parts [l.toldApart v, r.toldApart v] (by simpa using ⟨hl, hr⟩)
      (fun s hs => ?_) ?_
    · simpa using mem_reached_binary hs
    · intro hop x y hx hy hapart
      exact happly ⟨hop, (apart_iff hx hy).mpr hapart⟩
  | ternary c t f ihc iht ihf =>
    have hmem {s : Scalar} (h : s ∈ c.literals ∨ s ∈ t.literals ∨ s ∈ f.literals) : exact s :=
      hliterals s (mem_literals_ternary.mpr h)
    have hc := ihc fun s hs => hmem (.inl hs)
    have ht := iht fun s hs => hmem (.inr (.inl hs))
    have hf := ihf fun s hs => hmem (.inr (.inr hs))
    refine .of_parts [c.toldApart v, t.toldApart v, f.toldApart v] (by simpa using ⟨hc, ht, hf⟩)
      (fun s hs => ?_) trivial
    rcases mem_reached_ternary.mp hs with rfl | hs | ⟨-, hs⟩ | ⟨-, hs⟩ <;> simp [toldApart, hs]

end Expr

/-- Settling equalities keeps the type of an expression. -/
theorem WellTyped.toldApart {m : Manifest} {c : String} {e : Expr} {t : Typing} (v : Value)
    (h : WellTyped m c e t) : WellTyped m c (e.toldApart v) t := by
  induction h with
  | literal s => exact .literal s
  | member hpath => exact .member hpath
  | nullCheck negated _ ih => exact .nullCheck negated ih
  | not _ ih => exact .not ih
  | @logical op _ _ hop _ _ ihl ihr =>
    rw [Expr.toldApart_logical hop]
    exact .logical hop ihl ihr
  | equality hop _ _ hcomparable ihl ihr =>
    rw [Expr.toldApart]
    split
    · exact .literal _
    · exact .equality hop ihl ihr hcomparable
  | ordering hop _ _ hleft hright ihl ihr =>
    rw [Expr.toldApart_ordering hop]
    exact .ordering hop ihl ihr hleft hright
  | guarded hop _ _ hleft hright hguard _ ihl ihr ihguard =>
    rw [Expr.toldApart_logical rfl, Expr.toldApart_ordering hop]
    exact .guarded hop ihl ihr hleft hright (Expr.toldApart_guard? hguard) ihguard
  | ternary _ _ _ hagree ihc ihl ihr => exact .ternary ihc ihl ihr hagree

namespace Js

variable {m : Manifest} {c : String} {v : Value} {e : Expr} {t : Typing}

/-- JavaScript does to an expression what it does once equalities are settled. -/
theorem run_toldApart (hv : HasType m v (.reference c)) (hname : v.KeepsApart ClassFile.camel)
    (hexact : ∀ w ∈ v.inside, w.IsExact) (h : WellTyped m c e t)
    (hliterals : ∀ s ∈ e.literals, s.toValue.IsExact) :
    machine.run (ofValue ClassFile.camel v) (typescriptReading.phrase (e.toldApart v)) =
      machine.run (ofValue ClassFile.camel v) (typescriptReading.phrase e) := by
  have S := simulates hv hname hexact
  -- An operand of a comparison has the value that it has once equalities are settled.
  have value {e : Expr} {t : Typing} (h : WellTyped m c e t)
      (hliterals : ∀ s ∈ e.literals, s.toValue.IsExact) :
      ∃ x, (e.toldApart v).evaluate v = .ok x ∧
        machine.run (ofValue ClassFile.camel v) (typescriptReading.phrase (e.toldApart v)) =
          some (seen ClassFile.camel ((e.toldApart v).absent v) x) := by
    obtain ⟨x, y, hx, hy, rfl, -⟩ :=
      S.run (h.toldApart v) hv (Expr.settled_toldApart hliterals fun _ => trivial)
    exact ⟨x, hx, hy⟩
  induction h with
  | literal | member => rfl
  | nullCheck negated _ ih => exact Machine.run_joined_congr (ih hliterals) rfl
  | not _ ih =>
    show machine.run _ (.negated _) = machine.run _ (.negated _)
    simp only [Machine.run, ih hliterals]
  | @logical op l r hop _ _ ihl ihr =>
    rw [Expr.toldApart_logical hop]
    exact Machine.run_joined_congr (ihl fun s hs => hliterals s (List.mem_append_left _ hs))
      (ihr fun s hs => hliterals s (List.mem_append_right _ hs))
  | @equality op l r _ _ hop left right _ ihl ihr =>
    have hleft (s) (hs : s ∈ l.literals) := hliterals s (List.mem_append_left _ hs)
    have hright (s) (hs : s ∈ r.literals) := hliterals s (List.mem_append_right _ hs)
    have hjoined : machine.run (ofValue ClassFile.camel v)
        (typescriptReading.phrase (.binary op (l.toldApart v) (r.toldApart v))) =
          machine.run (ofValue ClassFile.camel v) (typescriptReading.phrase (.binary op l r)) :=
      Machine.run_joined_congr (ihl hleft) (ihr hright)
    rw [Expr.toldApart]
    split
    next happly =>
      obtain ⟨x, hx, hl⟩ := value left hleft
      obtain ⟨y, hy, hr⟩ := value right hright
      have hsame := same?_apart ClassFile.camel ((Expr.apart_iff hx hy).mp happly.2)
      rw [← hjoined]
      rcases hop with rfl | rfl
      · refine (Machine.run_comparison (by decide) hl hr ?_).symm
        exact hsame
      · refine (Machine.run_comparison (by decide) hl hr ?_).symm
        show (same? _ _).map _ = _
        rw [hsame]
        rfl
    next => exact hjoined
  | @ordering op l r _ _ hop _ _ _ _ ihl ihr =>
    rw [Expr.toldApart_ordering hop]
    exact Machine.run_joined_congr (ihl fun s hs => hliterals s (List.mem_append_left _ hs))
      (ihr fun s hs => hliterals s (List.mem_append_right _ hs))
  | @guarded op l r guard _ _ hop _ _ _ _ _ _ ihl ihr ihguard =>
    have hparts (s) (hs : s ∈ l.literals ∨ s ∈ r.literals) : s.toValue.IsExact :=
      hliterals s (List.mem_append_right _ (List.mem_append.mpr hs))
    rw [Expr.toldApart_logical rfl, Expr.toldApart_ordering hop]
    refine Machine.run_joined_congr (ihguard fun s hs => hliterals s (List.mem_append_left _ hs)) ?_
    exact Machine.run_joined_congr (ihl fun s hs => hparts s (.inl hs))
      (ihr fun s hs => hparts s (.inr hs))
  | @ternary test t f _ _ _ _ _ _ _ ihc iht ihf =>
    have hmem {s : Scalar} (h : s ∈ test.literals ∨ s ∈ t.literals ∨ s ∈ f.literals) :
        s.toValue.IsExact := hliterals s (Expr.mem_literals_ternary.mpr h)
    exact Machine.run_conditional_congr (ihc fun s hs => hmem (.inl hs))
      (iht fun s hs => hmem (.inr (.inl hs))) (ihf fun s hs => hmem (.inr (.inr hs)))

end Js

namespace Manifest

/-- What is printed for a computed property, for TypeScript, has one reading; that runs without an
error, on every instance, to the value of the expression once equalities are settled. That is the
value of the property where no equality is reached of which the operands are apart. -/
theorem printed_typescript {all : List Source.Declaration} {m m' : Manifest}
    (hm : Resolve.manifest all = .ok m) (hcompile : m.compile = .ok m') {d : ClassDecl}
    {p : PropertyDecl} (hd : d ∈ m'.classes) (hp : p ∈ d.computedProperties)
    (hfinite : ∀ s ∈ p.expression.literals, s.isFinite = true)
    (hexact : ∀ s ∈ p.expression.literals, s.toValue.IsExact) {self : Value}
    (hself : HasType m' self (.reference d.name))
    (hints : ∀ n, .int n ∈ self.inside → n.natAbs ≤ twoTo 53)
    (hnames : self.KeepsApart ClassFile.camel) :
    ∃ value told y, p.expression.evaluate self = .ok value ∧
      (p.expression.toldApart self).evaluate self = .ok told ∧
      typescriptReading.Yields Js.machine (Js.ofValue ClassFile.camel self) p.expression y ∧
      y.orNull = Js.ofValue ClassFile.camel told ∧
      (p.expression.Settled (fun s => s.toValue.IsExact) Js.Apart self →
        y.orNull = Js.ofValue ClassFile.camel value) := by
  obtain ⟨a, t, -, helaborates, -⟩ := compiled_means (Resolve.manifest_fresh hm) hcompile hd hp
  have htyped := helaborates.wellTyped
  have hinside : ∀ w ∈ self.inside, w.IsExact := by
    intro w hw
    cases w with
    | int n => exact Double.exact_of_le (hints n hw)
    | _ => trivial
  have S := Js.simulates hself hnames hinside
  obtain ⟨value, hvalue, -⟩ := htyped.evaluates hself
  obtain ⟨told, y, htold, hrun, rfl, -⟩ :=
    S.run (htyped.toldApart self) hself (Expr.settled_toldApart hexact fun _ => trivial)
  rw [Js.run_toldApart hself hnames hinside htyped hexact] at hrun
  refine ⟨value, told, _, hvalue, htold,
    Reading.yields typescript_spells htyped.isComplete hfinite hrun, Js.orNull_seen _ _,
    fun hsettled => ?_⟩
  obtain ⟨x, y, hx, hy, rfl, -⟩ := S.run htyped hself hsettled
  obtain rfl := Except.ok.inj (hvalue.symm.trans hx)
  rw [Option.some.inj (hrun.symm.trans hy)]
  exact Js.orNull_seen _ _

/-- An item with a tag, of which the label is null but not absent. -/
theorem printed_typescript_tagged :
    ∃ value told y,
      Sample.sameExpr.evaluate (Sample.anItem (Sample.aTag .null) .null) = .ok value ∧
      (Sample.sameExpr.toldApart (Sample.anItem (Sample.aTag .null) .null)).evaluate
        (Sample.anItem (Sample.aTag .null) .null) = .ok told ∧
      typescriptReading.Yields Js.machine
        (Js.ofValue ClassFile.camel (Sample.anItem (Sample.aTag .null) .null)) Sample.sameExpr y ∧
      y.orNull = Js.ofValue ClassFile.camel told ∧
      y.orNull = Js.ofValue ClassFile.camel value := by
  obtain ⟨value, told, y, hvalue, htold, hy, h, hsettled⟩ :=
    printed_typescript Sample.built_eq Sample.compiled_eq
      (List.mem_cons_of_mem _ (List.mem_singleton_self _)) (List.mem_singleton_self _)
      (fun s hs => by cases hs) (fun s hs => by cases hs)
      (Sample.anItem_hasType (.present (Sample.aTag_hasType (.null _))) (.null _))
      (fun n hn => by
        simp [Sample.anItem, Sample.aTag, Value.object, Value.inside, Value.insideEntries] at hn)
      (by decide +kernel)
  refine ⟨value, told, y, hvalue, htold, hy, h, hsettled fun s hs => ?_⟩
  have hreached : Sample.sameExpr.reached (Sample.anItem (Sample.aTag .null) .null) =
      [Sample.sameExpr, .member ["tag", "label"] [1], .member ["title"] []] := rfl
  rw [show (Sample.itemSame .boolean Sample.sameExpr).expression = Sample.sameExpr from rfl,
    hreached] at hs
  simp only [List.mem_cons, List.not_mem_nil, or_false] at hs
  rcases hs with rfl | rfl | rfl
  · rintro - x y - - ⟨-, -, hne⟩
    exact hne rfl
  · trivial
  · trivial

/-- An item without a tag, of which the label is absent. The evaluator finds it equal to a title
that is null and JavaScript does not. -/
theorem printed_typescript_untagged :
    Resolve.manifest [Sample.tag, Sample.item] = .ok Sample.built ∧
      Sample.built.compile = .ok Sample.compiled ∧
      HasType Sample.compiled (Sample.anItem .null .null) (.reference "Item") ∧
      Sample.sameExpr.evaluate (Sample.anItem .null .null) = .ok (.bool true) ∧
      Dialect.typescript.print Sample.sameExpr = .ok "this.tag?.label === this.title" ∧
      typescriptReading.Yields Js.machine
        (Js.ofValue ClassFile.camel (Sample.anItem .null .null)) Sample.sameExpr (.bool false) :=
  ⟨rfl, rfl, Sample.anItem_hasType (.null _) (.null _), rfl, by decide +kernel,
    Reading.yields typescript_spells rfl (fun s hs => by cases hs) rfl⟩

end Manifest

end ViewModel
