import ViewModel.Proofs.Accessor.Elaborates
import ViewModel.Proofs.Accessor.Settle

/-!
Compiling an accessor gives the expression tree and the type that the accessor stands for, in the
classes as they are compiled by then.
-/

namespace ViewModel.Accessor

open Source (Term CompareOp Constant)

variable {m : Manifest} {inv : Progress → Prop} {site : Site}

namespace Meets

variable {α : Type} {pre : Progress → Prop} {post : α → Progress → Prop}

theorem fail (cause : BuildError.Cause) : Meets inv pre (site.fail cause) post :=
  .throw _

theorem lift (x : Except BuildError.Cause α) :
    Meets inv pre (site.lift x) (fun a done => x = .ok a ∧ pre done) := by
  cases x with
  | ok a => exact .pure fun _ h => ⟨rfl, h⟩
  | error cause => exact .fail cause

theorem lift_bind {β : Type} {x : Except BuildError.Cause α} {f : α → Compile β}
    {result : β → Progress → Prop} (hf : ∀ a, x = .ok a → Meets inv pre (f a) result) :
    Meets inv pre (site.lift x >>= f) result := by
  cases x with
  | ok a => exact hf a rfl
  | error cause => exact .throw_bind _

end Meets

/-- Where an accessor of `m` is compiled soundly: the type that the site finds for a property is
the one that it has in the classes as they are compiled by then. -/
structure Site.Sound (m : Manifest) (inv : Progress → Prop) (site : Site) : Prop where
  fresh : m.Fresh
  owner : site.owner ∈ m.classes
  visible : site.scope.visible = m
  member : ∀ receiver ∈ m.classes, ∀ path name,
    Meets inv (fun _ => True) (site.memberType receiver path name)
      (fun t done => (done.apply m).HasMember receiver.name name t)

/-- A comparison of two terms as it is compiled. -/
def Linked (m : Manifest) (c : String) (x : Term) (op : CompareOp) (y : Term) (e : Expr) : Prop :=
  ∃ l a r b, Elaborates m c x l a ∧ Elaborates m c y r b ∧ Link x (l, a) op y (r, b) e

theorem elaborates_lasting (hm : m.Fresh) (c : String) (t : Term) (e : Expr) (τ : Typing) :
    Lasting (fun done => Elaborates (done.apply m) c t e τ) :=
  fun done after hprefix h =>
    h.mono fun c name t => Progress.hasMember_lasting hm c name t done after hprefix

namespace Site.Sound

variable {pre : Progress → Prop}

theorem follow (h : site.Sound m inv) (path : List String) (leaf : TypeRef) (nullSafe : List Int)
    (rest : List String) :
    Meets inv (fun _ => True) (site.follow path leaf nullSafe rest) (fun r done =>
      ∃ more u, PathType (done.apply m) path.length leaf rest more u ∧
        r = (u.alongPath (nullSafe ++ more), nullSafe ++ more)) := by
  induction rest generalizing path leaf nullSafe with
  | nil =>
    refine .pure fun done _ => ⟨[], leaf, .nil _ _, ?_⟩
    simp [TypeRef.alongPath]
  | cons name rest ih =>
    unfold Site.follow
    split
    next c hstrip =>
      split
      · exact .fail _
      next receiver hreceiver =>
        rw [h.visible] at hreceiver
        have hname := Manifest.name_of_class? hreceiver
        refine .bind (h.member receiver (Manifest.mem_of_class? hreceiver) _ _) fun t => ?_
        refine ((ih (path ++ [name]) t _).keeping
          (Progress.hasMember_lasting h.fresh receiver.name name t)).weaken ?_
        rintro r done ⟨⟨more, u, hpath, rfl⟩, hmember⟩
        rw [List.length_append, List.length_singleton] at hpath
        rw [hname] at hmember
        cases leaf with
        | reference c' =>
          obtain rfl := TypeRef.reference.inj hstrip
          exact ⟨more, u, .strict hmember hpath, by simp [TypeRef.isNullable]⟩
        | nullable inner =>
          obtain rfl : inner = .reference c := hstrip
          exact ⟨path.length :: more, u, .safe hmember hpath, by simp [TypeRef.isNullable]⟩
        | _ => cases hstrip
    · exact .fail _

theorem path (h : site.Sound m inv) (path : List String) :
    Meets inv (fun _ => True) (site.member path) (fun r done => ∃ nullSafe t,
      PathType (done.apply m) 0 (.reference site.owner.name) path nullSafe t ∧
        r = (.member path nullSafe, .known (t.alongPath nullSafe))) := by
  unfold Site.member
  split
  · exact .fail _
  next name rest =>
    refine .bind (h.member site.owner h.owner _ _) fun leaf => ?_
    refine .bind ((h.follow [name] leaf [] rest).keeping
      (Progress.hasMember_lasting h.fresh site.owner.name name leaf)) fun r => ?_
    refine .pure ?_
    rintro done ⟨⟨nullSafe, t, hpath, rfl⟩, hmember⟩
    exact ⟨nullSafe, t, .strict hmember hpath, rfl⟩

theorem constant (k : Constant) :
    Meets inv pre (site.constant k) (fun r _ => ∃ s, k.scalar? = some s ∧
      r = (.literal s, s.typing)) := by
  cases k with
  | none | bool | int | float | text => exact .pure fun _ _ => ⟨_, rfl, rfl⟩
  | imaginary | bytes | ellipsis => exact .fail _

theorem negative (k : Constant) :
    Meets inv pre (site.negative k) (fun r _ => ∃ s n, k.scalar? = some s ∧
      s.negated? = some n ∧ r = (.literal n, n.typing)) := by
  refine .bind (constant k) fun r => ?_
  split
  next n t =>
    refine .pure ?_
    rintro done ⟨s, hs, heq⟩
    cases s <;> cases heq
    exact ⟨_, _, hs, rfl, rfl⟩
  next x t =>
    refine .pure ?_
    rintro done ⟨s, hs, heq⟩
    cases s <;> cases heq
    exact ⟨_, _, hs, rfl, rfl⟩
  · exact .fail _

/-- Compiling a term gives what the term stands for. -/
abbrev Emits (m : Manifest) (inv : Progress → Prop) (site : Site) (t : Term) : Prop :=
  Meets inv (fun _ => True) (site.emit t)
    (fun r done => Elaborates (done.apply m) site.owner.name t r.1 r.2)

theorem comparison (h : site.Sound m inv) {x y : Term} {op : CompareOp}
    (hx : Emits m inv site x) (hy : Emits m inv site y) :
    Meets inv (fun _ => True)
      (site.comparison ⟨x.isNone, site.emit x⟩ op ⟨y.isNone, site.emit y⟩)
      (fun e done => Linked (done.apply m) site.owner.name x op y e) := by
  have hnone {t : Term} (ht : t.isNone = true) (done : Progress) :
      Elaborates (done.apply m) site.owner.name t (.literal .null) .null :=
    isNone_eq_true ht ▸ .constant rfl
  unfold Site.comparison
  split
  next hnull =>
    have hop : testsNull op = true := by simp_all
    split
    · exact .fail _
    split
    next hleft =>
      refine .bind hy fun r => .pure fun done hr => ?_
      exact ⟨_, _, _, _, hnone hleft done, hr, .nullLeft hop hleft⟩
    next hleft =>
      have hright : y.isNone = true := by simp_all
      refine .bind hx fun r => .pure fun done hr => ?_
      exact ⟨_, _, _, _, hr, hnone hright done, .nullRight hop hright⟩
  · split
    · exact .fail _
    split
    · exact .fail _
    next operator hop =>
      refine .bind hx fun l => .bind (hy.keeping (elaborates_lasting h.fresh _ x l.1 l.2))
        fun r => ?_
      refine (Meets.lift _).weaken ?_
      rintro e done ⟨he, hr, hl⟩
      exact ⟨_, _, _, _, hl, hr, .values hop he⟩

/-- The links that follow are compiled one after the other, each with the operand before it. -/
theorem chain (h : site.Sound m inv) {first second : Term} {op : CompareOp}
    (more : List (CompareOp × Term)) (before : List (CompareOp × Term)) (sofar : Expr)
    (hlast : Emits m inv site (lastOperand second before))
    (hmore : ∀ p ∈ more, Emits m inv site p.2) :
    Meets inv
      (fun done => Elaborates (done.apply m) site.owner.name (.compare first op second before)
        sofar (.known .boolean))
      (site.chain sofar ⟨(lastOperand second before).isNone,
        site.emit (lastOperand second before)⟩ (site.operands more))
      (fun r done => Elaborates (done.apply m) site.owner.name
        (.compare first op second (before ++ more)) r.1 r.2) := by
  induction more generalizing before sofar with
  | nil =>
    refine .pure fun done hsofar => ?_
    rw [List.append_nil]
    exact hsofar
  | cons p more ih =>
    obtain ⟨op', last⟩ := p
    have hp := hmore (op', last) List.mem_cons_self
    have hrest := ih (before ++ [(op', last)])
    rw [lastOperand_append, List.append_assoc, List.singleton_append] at hrest
    rw [Site.operands, Site.chain]
    refine .bind ((h.comparison hlast hp).keeping (elaborates_lasting h.fresh _ _ _ _)) fun e => ?_
    refine Meets.assuming (hrest _ hp fun q hq => hmore q (List.mem_cons_of_mem _ hq)) ?_
    rintro done ⟨⟨l, a, r, b, hl, hr, hlink⟩, hsofar⟩
    exact .chain hsofar hl hr hlink

mutual

theorem emit (h : site.Sound m inv) : ∀ t : Term, Emits m inv site t
  | .constant k => by
    rw [Emits, Site.emit]
    refine (constant k).weaken ?_
    rintro r done ⟨s, hs, rfl⟩
    exact .constant hs
  | .access receiver name => by
    rw [Emits, Site.emit]
    split
    next path hpath =>
      refine (h.path _).weaken ?_
      rintro r done ⟨nullSafe, t, ht, rfl⟩
      exact .member hpath ht
    · exact .fail _
  | .logical conjunction left right => by
    rw [Emits, Site.emit]
    refine .bind (h.emit left) fun l => .lift_bind fun l' hl => ?_
    refine .bind ((h.emit right).keeping (elaborates_lasting h.fresh _ _ _ _)) fun r =>
      .lift_bind fun r' hr => ?_
    exact .pure fun done helaborates => .logical helaborates.2 hl helaborates.1 hr
  | .unary .not operand => by
    rw [Emits, Site.emit]
    refine .bind (h.emit operand) fun r => .lift_bind fun e he => ?_
    exact .pure fun done helaborates => .not helaborates he
  | .unary .minus operand => by
    cases operand with
    | constant k =>
      rw [Emits, Site.emit]
      refine (negative k).weaken ?_
      rintro r done ⟨s, n, hs, hn, rfl⟩
      exact .negative hs hn
    | _ =>
      rw [Emits, Site.emit] <;> first | exact .fail _ | simp
  | .compare first op second more => by
    rw [Emits, Site.emit]
    refine .bind (h.comparison (h.emit first) (h.emit second)) fun e => ?_
    refine Meets.assuming (h.chain more [] e (h.emit second) (h.operands more)) ?_
    rintro done ⟨l, a, r, b, hl, hr, hlink⟩
    exact .pair hl hr hlink
  | .conditional test whenTrue whenFalse => by
    rw [Emits, Site.emit]
    refine .bind (h.emit test) fun c => .lift_bind fun c' hc => ?_
    refine .bind ((h.emit whenTrue).keeping (elaborates_lasting h.fresh _ _ _ _)) fun t => ?_
    refine .bind ((h.emit whenFalse).keeping (.and (elaborates_lasting h.fresh _ _ _ _)
      (elaborates_lasting h.fresh _ _ _ _))) fun f => .lift_bind fun τ hagree => ?_
    refine .pure ?_
    rintro done ⟨hf, ht, htest⟩
    exact .conditional htest hc ht hf hagree
  | .unary .plus _ | .unary .invert _ => by
    rw [Emits, Site.emit] <;> first | exact .fail _ | simp
  | .name _ | .call _ => by
    rw [Emits, Site.emit]
    exact .fail _
  | .subscript .. | .arithmetic .. | .list _ | .tuple _ | .starred _ | .other _ => by
    rw [Emits, Site.emit] <;> first | exact .fail _ | simp

theorem operands (h : site.Sound m inv) :
    ∀ more : List (CompareOp × Term), ∀ p ∈ more, Emits m inv site p.2
  | [], _, hp => by simp at hp
  | (op, t) :: rest, p, hp => by
    rcases List.mem_cons.mp hp with rfl | hp
    · exact h.emit t
    · exact h.operands rest p hp

end

end Site.Sound

end ViewModel.Accessor
