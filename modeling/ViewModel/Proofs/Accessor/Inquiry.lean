import ViewModel.Accessor.Compile
import ViewModel.Proofs.Accessor.Uses

/-!
Compiling an accessor knows nothing of other accessors but the types it asks for, one after the
other: each question depends on the answers so far, and so does the result. The questions are for
properties that its paths name, and what it refuses it refuses in its own name.
-/

namespace ViewModel.Accessor

open Source (Term CompareOp Constant)

/-- What answers questions for the type of a property. -/
abbrev Types := ClassDecl → PropertyDecl → Compile TypeRef

variable {α β : Type} {m : Manifest} {c : ClassDecl} {name : String}

/-- What is computed by asking for the types of properties of `m` only. -/
inductive Inquires (m : Manifest) : (Types → Compile α) → Prop
  | answer (a : α) : Inquires m fun _ => pure a
  | refuse (e : BuildError) : Inquires m fun _ => throw e
  | ask {c : ClassDecl} {p : PropertyDecl} {next : TypeRef → Types → Compile α}
      (hc : c ∈ m.classes) (hp : p ∈ c.properties) (h : ∀ t, Inquires m (next t)) :
      Inquires m fun types => types c p >>= fun t => next t types

/-- Whoever answers the same computes the same. -/
theorem Inquires.congr {x : Types → Compile α} (hx : Inquires m x) {types types' : Types}
    (h : ∀ c ∈ m.classes, ∀ p ∈ c.properties, types c p = types' c p) : x types = x types' := by
  induction hx with
  | answer | refuse => rfl
  | ask hc hp _ ih => simp only [h _ hc _ hp, ih]

/-- Where an accessor of `c` is compiled, with all of `m` in sight. -/
abbrev siteOf (m : Manifest) (c : ClassDecl) (name : String) (types : Types) : Site :=
  ⟨⟨m, m⟩, c, name, types⟩

/-! Questions within limits. -/

/-- What questions keep to: the computed properties that are asked for while every answer is the one
of `type`, and the errors of those that ask. -/
structure Limits where
  type : ClassDecl → PropertyDecl → TypeRef
  named : Key → Prop
  own : BuildError → Prop

/-- `Asks l m ok post x`: where `ok` holds, `x` keeps to the limits, and `post` holds of its result
if every answer is the one of the limits. -/
inductive Asks (l : Limits) (m : Manifest) (post : α → Prop) : Prop → (Types → Compile α) → Prop
  | answer {ok : Prop} (a : α) (h : ok → post a) : Asks l m post ok fun _ => pure a
  | refuse {ok : Prop} (e : BuildError) (h : l.own e) : Asks l m post ok fun _ => throw e
  | ask {ok : Prop} {c : ClassDecl} {p : PropertyDecl} {next : TypeRef → Types → Compile α}
      (hc : c ∈ m.classes) (hp : p ∈ c.properties)
      (hnamed : ok → p.computed = true → l.named (c.name, p.name))
      (h : ∀ t, Asks l m post (ok ∧ t = l.type c p) (next t)) :
      Asks l m post ok fun types => types c p >>= fun t => next t types

variable {l : Limits} {ok ok' : Prop} {mid : α → Prop} {post : β → Prop}
variable {x : Types → Compile α} {y : Types → Compile β} {f : α → Types → Compile β}

namespace Asks

theorem inquires (h : Asks l m mid ok x) : Inquires m x := by
  induction h with
  | answer a => exact .answer a
  | refuse e => exact .refuse e
  | ask hc hp _ _ ih => exact .ask hc hp ih

theorem assuming (h : Asks l m mid ok x) (hok : ok' → ok) : Asks l m mid ok' x := by
  induction h generalizing ok' with
  | answer a h => exact .answer a fun h' => h (hok h')
  | refuse e h => exact .refuse e h
  | ask hc hp hnamed _ ih =>
    exact .ask hc hp (fun h' => hnamed (hok h')) fun t => ih t fun h' => ⟨hok h'.1, h'.2⟩

theorem bind (hx : Asks l m mid ok x) (hf : ∀ a, Asks l m post (mid a) (f a)) :
    Asks l m post ok fun types => x types >>= fun a => f a types := by
  induction hx with
  | answer a h => simpa using (hf a).assuming h
  | refuse e h => exact .refuse e h
  | ask hc hp hnamed _ ih => simpa using Asks.ask hc hp hnamed ih

theorem branch {P : Prop} {decide : Types → Decidable P} {x y : Types → Compile α}
    (hx : Asks l m mid ok x) (hy : Asks l m mid ok y) :
    Asks l m mid ok fun types => @ite _ P (decide types) (x types) (y types) := by
  by_cases h : P
  · simpa only [if_pos h] using hx
  · simpa only [if_neg h] using hy

end Asks

namespace Limits

/-- Every computed property that a path from a class names is among those that may be asked for. -/
def Covers (l : Limits) (m : Manifest) : ClassDecl → List String → Prop
  | _, [] => True
  | receiver, name :: rest => ∀ owner p, m.owner? receiver name = some owner →
      owner.property? name = some p →
        (p.computed = true → l.named (owner.name, p.name)) ∧
          ∀ c d, (l.type owner p).stripNull = .reference c → m.class? c = some d →
            l.Covers m d rest

/-- The same of a path from a value of some type. -/
def CoversFrom (l : Limits) (m : Manifest) (t : TypeRef) (path : List String) : Prop :=
  ∀ c d, t.stripNull = .reference c → m.class? c = some d → l.Covers m d path

theorem covers_of_pathNames {target : String} {receiver : ClassDecl} {path : List String}
    (hreceiver : m.class? target = some receiver)
    (h : ∀ key, m.PathNames l.type target path key → l.named key) : l.Covers m receiver path := by
  induction path generalizing target receiver with
  | nil => trivial
  | cons name rest ih =>
    refine fun owner p howner hp => ⟨fun hcomputed => ?_, fun c d htype hd => ?_⟩
    · exact h _ (.here hreceiver howner hp hcomputed)
    · exact ih hd fun key hkey => h key (.there hreceiver howner hp htype hkey)

/-- Anything may be asked for. -/
def none : Limits := ⟨fun _ _ => .unresolved, fun _ => True, fun _ => True⟩

theorem none_covers (receiver : ClassDecl) (path : List String) :
    none.Covers m receiver path := by
  induction path generalizing receiver with
  | nil => trivial
  | cons name rest ih => exact fun owner p _ _ => ⟨fun _ => trivial, fun _ d _ _ => ih d⟩

/-- A site may refuse in its own name, but it finds no cycle by itself. -/
def Admits (l : Limits) (c : ClassDecl) (name : String) : Prop :=
  ∀ cause, cause ≠ .cycle → l.own ⟨c.name, name, cause⟩

end Limits

/-! Rules on types and hints know of no cycles. -/

theorem condition_ne_cycle (r : Typed) : Typed.condition r ≠ .error .cycle := by
  unfold Typed.condition
  split <;> split <;> simp

theorem checkOrdered_ne_cycle (t : Typing) : Typed.checkOrdered t ≠ .error .cycle := by
  unfold Typed.checkOrdered
  split <;> simp

theorem checkEquality_ne_cycle (a b : Typing) : Typed.checkEquality a b ≠ .error .cycle := by
  simp only [Typed.checkEquality]
  split
  · simp
  · split <;> simp

theorem agree_ne_cycle (a b : Typing) : Typed.agree a b ≠ .error .cycle := by
  unfold Typed.agree
  split
  · simp
  · split
    · simp
    · simp
    · split <;> simp

theorem compare_ne_cycle (op : BinaryOp) (a b : Typed) :
    Typed.compare op a b ≠ .error .cycle := by
  unfold Typed.compare
  split
  · refine Success.bind_ne_error (checkOrdered_ne_cycle _) fun _ =>
      Success.bind_ne_error (checkOrdered_ne_cycle _) fun _ => ?_
    split <;> simp [pure, Except.pure]
  · exact Success.bind_ne_error (checkEquality_ne_cycle _ _) fun _ => by simp [pure, Except.pure]

theorem hint_named_ne_cycle (classes : List String) (id : String) :
    Hint.named classes id ≠ .error .cycle := by
  unfold Hint.named
  split
  · simp
  · split <;> simp

theorem hint_ofTerm_ne_cycle {classes : List String}
    {quoted : String → Except BuildError.Cause TypeRef} (hquoted : ∀ s, quoted s ≠ .error .cycle)
    (t : Term) : Hint.ofTerm classes quoted t ≠ .error .cycle := by
  fun_induction Hint.ofTerm classes quoted t with
  | case1 s => exact hquoted s
  | case2 | case3 => exact hint_named_ne_cycle _ _
  | case4 _ _ _ ih | case5 _ _ _ _ _ _ ih | case8 _ _ _ _ ih | case9 _ _ _ _ ih =>
    exact Success.map_ne_error ih
  | _ => simp

theorem hint_ne_cycle (classes : List String) (hint : Term) :
    Hint.type classes hint ≠ .error .cycle := by
  have htext (fuel : Nat) (s : String) : Hint.ofText classes fuel s ≠ .error .cycle := by
    induction fuel generalizing s with
    | zero => simp [Hint.ofText]
    | succ fuel ih =>
      rw [Hint.ofText]
      split
      · simp
      split
      · exact hint_ofTerm_ne_cycle ih _
      · simp
  exact hint_ofTerm_ne_cycle (fun s => htext _ s) hint

/-! Compiling an accessor. -/

namespace Asks

theorem fail (hown : l.Admits c name) {cause : BuildError.Cause} (h : cause ≠ .cycle) :
    Asks l m mid ok fun types => ((siteOf m c name types).fail cause : Compile α) :=
  .refuse ⟨c.name, name, cause⟩ (hown cause h)

theorem lift (hown : l.Admits c name) {r : Except BuildError.Cause α} (h : r ≠ .error .cycle) :
    Asks l m (fun _ => True) ok fun types => (siteOf m c name types).lift r := by
  cases r with
  | ok a => exact .answer a fun _ => trivial
  | error cause => exact .fail hown fun hcause => h (congrArg Except.error hcause)

theorem memberType (hown : l.Admits c name) {receiver : ClassDecl}
    (hreceiver : receiver ∈ m.classes) (path : List String) (segment : String)
    (rest : List String) (hcovers : ok → l.Covers m receiver (segment :: rest)) :
    Asks l m (fun t => l.CoversFrom m t rest) ok
      fun types => (siteOf m c name types).memberType receiver path segment := by
  unfold Site.memberType
  cases howner : m.owner? receiver segment with
  | none => simpa [howner] using fail hown (by simp)
  | some owner =>
    cases hp : owner.property? segment with
    | none => simpa [howner, hp] using fail hown (by simp)
    | some p =>
      have h :
          Asks l m (fun t => l.CoversFrom m t rest) ok fun types => types owner p >>= pure := by
        refine .ask (Manifest.mem_of_owner? hreceiver howner) (ClassDecl.mem_of_property? hp)
          (fun h => (hcovers h owner p howner hp).1) fun t => .answer t ?_
        rintro ⟨h, rfl⟩
        exact (hcovers h owner p howner hp).2
      simpa [howner, hp] using h

theorem follow (hown : l.Admits c name) (path : List String) (leaf : TypeRef)
    (nullSafe : List Int) (rest : List String) :
    Asks l m (fun _ => True) (l.CoversFrom m leaf rest)
      fun types => (siteOf m c name types).follow path leaf nullSafe rest := by
  induction rest generalizing path leaf nullSafe with
  | nil => exact .answer _ fun _ => trivial
  | cons segment rest ih =>
    unfold Site.follow
    split
    next target htarget =>
      dsimp only
      split
      · exact fail hown (by simp)
      next receiver hreceiver =>
        exact .bind (memberType hown (Manifest.mem_of_class? hreceiver) _ _ rest
          fun h => h target receiver htarget hreceiver) fun t => ih _ _ _
    · exact fail hown (by simp)

theorem member (hown : l.Admits c name) (hc : c ∈ m.classes) {path : List String}
    (hcovers : l.Covers m c path) :
    Asks l m (fun _ => True) True fun types => (siteOf m c name types).member path := by
  unfold Site.member
  split
  · exact fail hown (by simp)
  · exact .bind (memberType hown hc _ _ _ fun _ => hcovers) fun leaf =>
      .bind (follow hown _ _ _ _) fun r => .answer _ fun _ => trivial

theorem constant (hown : l.Admits c name) (k : Constant) :
    Asks l m (fun _ => True) True fun types => (siteOf m c name types).constant k := by
  cases k with
  | none | bool | int | float | text => exact .answer _ fun _ => trivial
  | imaginary | bytes | ellipsis => exact fail hown (by simp)

theorem negative (hown : l.Admits c name) (k : Constant) :
    Asks l m (fun _ => True) True fun types => (siteOf m c name types).negative k := by
  refine .bind (constant hown k) fun r => ?_
  split
  · exact .answer _ fun _ => trivial
  · exact .answer _ fun _ => trivial
  · exact fail hown (by simp)

theorem comparison (hown : l.Admits c name) {x y : Types → Compile Typed}
    (hx : Asks l m (fun _ => True) True x) (hy : Asks l m (fun _ => True) True y) (a b : Bool)
    (op : CompareOp) : Asks l m (fun _ => True) True
      fun types => (siteOf m c name types).comparison ⟨a, x types⟩ op ⟨b, y types⟩ := by
  unfold Site.comparison
  dsimp only
  refine .branch (.branch (fail hown (by simp)) (.branch ?_ ?_)) (.branch (fail hown (by simp)) ?_)
  · exact .bind hy fun r => .answer _ fun _ => trivial
  · exact .bind hx fun l => .answer _ fun _ => trivial
  split
  · exact fail hown (by simp)
  · exact .bind hx fun l => .bind hy fun r => lift hown (compare_ne_cycle _ _ _)

theorem chain (hown : l.Admits c name) {x : Types → Compile Typed}
    (hx : Asks l m (fun _ => True) True x) (a : Bool) (sofar : Expr)
    (more : List (CompareOp × Term))
    (hmore : ∀ p ∈ more,
      Asks l m (fun _ => True) True fun types => (siteOf m c name types).emit p.2) :
    Asks l m (fun _ => True) True fun types =>
      (siteOf m c name types).chain sofar ⟨a, x types⟩ ((siteOf m c name types).operands more) := by
  induction more generalizing x a sofar with
  | nil => exact .answer _ fun _ => trivial
  | cons p more ih =>
    have hp := hmore p List.mem_cons_self
    simp only [Site.operands, Site.chain]
    exact .bind (comparison hown hx hp _ _ _) fun e =>
      ih hp _ _ fun q hq => hmore q (List.mem_cons_of_mem _ hq)

mutual

theorem emit (hown : l.Admits c name) (hc : c ∈ m.classes) : ∀ t : Term,
    (∀ path ∈ termPaths t, l.Covers m c path) →
      Asks l m (fun _ => True) True fun types => (siteOf m c name types).emit t
  | .constant k, _ => by
    simp only [Site.emit]
    exact constant hown k
  | .access receiver segment, h => by
    simp only [Site.emit]
    split
    next path hpath =>
      simp only [termPaths, hpath, List.forall_mem_singleton] at h
      exact member hown hc h
    · exact fail hown (by simp)
  | .logical conjunction left right, h => by
    obtain ⟨hleft, hright⟩ := List.forall_mem_append.mp h
    simp only [Site.emit]
    exact .bind (emit hown hc left hleft) fun l =>
      .bind (lift hown (condition_ne_cycle _)) fun l' =>
        .bind (emit hown hc right hright) fun r =>
          .bind (lift hown (condition_ne_cycle _)) fun r' => .answer _ fun _ => trivial
  | .unary .not operand, h => by
    simp only [Site.emit]
    exact .bind (emit hown hc operand h) fun r => .bind (lift hown (condition_ne_cycle _)) fun e =>
      .answer _ fun _ => trivial
  | .unary .minus operand, _ => by
    cases operand with
    | constant k =>
      simp only [Site.emit]
      exact negative hown k
    | _ => simpa only [Site.emit] using fail hown (by simp)
  | .compare first op second more, h => by
    obtain ⟨hboth, hmore⟩ := List.forall_mem_append.mp h
    obtain ⟨hfirst, hsecond⟩ := List.forall_mem_append.mp hboth
    simp only [Site.emit]
    exact .bind (comparison hown (emit hown hc first hfirst) (emit hown hc second hsecond) _ _ _)
      fun e => chain hown (emit hown hc second hsecond) _ _ more (operands hown hc more hmore)
  | .conditional test whenTrue whenFalse, h => by
    obtain ⟨hboth, hfalse⟩ := List.forall_mem_append.mp h
    obtain ⟨htest, htrue⟩ := List.forall_mem_append.mp hboth
    simp only [Site.emit]
    exact .bind (emit hown hc test htest) fun r => .bind (lift hown (condition_ne_cycle _)) fun e =>
      .bind (emit hown hc whenTrue htrue) fun t => .bind (emit hown hc whenFalse hfalse) fun f =>
        .bind (lift hown (agree_ne_cycle _ _)) fun τ => .answer _ fun _ => trivial
  | .unary .plus _, _ | .unary .invert _, _ | .name _, _ | .call _, _ | .subscript .., _
  | .arithmetic .., _ | .list _, _ | .tuple _, _ | .starred _, _ | .other _, _ => by
    simp only [Site.emit]
    exact fail hown (by first | split <;> simp | simp)

theorem operands (hown : l.Admits c name) (hc : c ∈ m.classes) :
    ∀ more : List (CompareOp × Term), (∀ path ∈ linkPaths more, l.Covers m c path) →
      ∀ p ∈ more, Asks l m (fun _ => True) True fun types => (siteOf m c name types).emit p.2
  | [], _, _, hp => by simp at hp
  | (op, t) :: rest, h, p, hp => by
    obtain ⟨ht, hrest⟩ := List.forall_mem_append.mp h
    rcases List.mem_cons.mp hp with rfl | hp
    · exact emit hown hc t ht
    · exact operands hown hc rest hrest p hp

end

theorem declaredType (hown : l.Admits c name) (inferred : TypeRef) (hint : Option Term) :
    Asks l m (fun _ => True) True
      fun types => (siteOf m c name types).declaredType inferred hint := by
  cases hint with
  | none => exact .answer _ fun _ => trivial
  | some hint =>
    refine .bind (lift hown (hint_ne_cycle m.names hint)) fun declared => ?_
    split
    · exact .answer _ fun _ => trivial
    · exact fail hown (by simp)

/-- Compiling an accessor keeps to the limits that its paths do. -/
theorem compile (hown : l.Admits c name) (hc : c ∈ m.classes) (a : Accessor)
    (h : ∀ path ∈ termPaths a.expression, l.Covers m c path) :
    Asks l m (fun _ => True) True fun types => (siteOf m c name types).compile a := by
  refine .bind (emit hown hc a.expression h) fun r => ?_
  split
  · exact fail hown (by simp)
  · exact .bind (declaredType hown _ _) fun t => .answer _ fun _ => trivial

end Asks

/-- Compiling an accessor asks for types of properties and nothing else. -/
theorem Inquires.compile (hc : c ∈ m.classes) (name : String) (a : Accessor) :
    Inquires m fun types => (siteOf m c name types).compile a :=
  (Asks.compile (fun _ _ => trivial) hc a fun path _ => Limits.none_covers c path).inquires

end ViewModel.Accessor
