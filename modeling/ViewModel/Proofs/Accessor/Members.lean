import ViewModel.Proofs.Accessor.Cycles
import ViewModel.Proofs.Accessor.Soundness

/-!
What an expression depends on: the members that it reads, each listed once. The expressions that
accessors are compiled to read nothing but properties of their own class, and what those lead to.
-/

namespace ViewModel

open Source (Term CompareOp Constant Declaration)

namespace Expr

variable {e : Expr} {path : List String} {seen paths : List (List String)}

theorem mem_addPaths : path ∈ paths.foldl addPath seen ↔ path ∈ seen ∨ path ∈ paths := by
  induction paths generalizing seen with
  | nil => simp
  | cons first paths ih =>
    rw [List.foldl_cons, ih, addPath, List.mem_cons]
    split
    next hfirst =>
      constructor
      · exact Or.imp_right .inr
      · rintro (h | rfl | h)
        · exact .inl h
        · exact .inl hfirst
        · exact .inr h
    · rw [List.mem_append, List.mem_singleton, or_assoc]

theorem nodup_addPaths (h : seen.Nodup) : (paths.foldl addPath seen).Nodup := by
  induction paths generalizing seen with
  | nil => exact h
  | cons first paths ih =>
    rw [List.foldl_cons]
    apply ih
    unfold addPath
    split
    · exact h
    next hfirst =>
      rw [List.nodup_append_comm]
      exact List.nodup_cons.mpr ⟨hfirst, h⟩

theorem mem_referencedMembers : path ∈ e.referencedMembers ↔ path ∈ e.paths := by
  rw [referencedMembers, mem_addPaths]
  simp

/-- What is read the same gives the same, in every part of the expression that is reached. -/
theorem evaluate_congr {v w : Value} (h : ∀ path ∈ e.paths, v.memberPath path = w.memberPath path) :
    e.evaluate v = e.evaluate w := by
  induction e with
  | hole | literal => rfl
  | member path => simp only [evaluate, h path (List.mem_singleton_self path)]
  | not operand ih | nullCheck operand _ ih => simp only [evaluate, ih h]
  | binary op l r ihl ihr =>
    obtain ⟨hl, hr⟩ := List.forall_mem_append.mp h
    cases op <;> simp only [evaluate, ihl hl, ihr hr]
  | ternary c t f ihc iht ihf =>
    obtain ⟨hboth, hf⟩ := List.forall_mem_append.mp h
    obtain ⟨hc, ht⟩ := List.forall_mem_append.mp hboth
    simp only [evaluate, ihc hc, iht ht, ihf hf]

end Expr

/-- The class or one of its ancestors declares a property of this name. -/
def Manifest.Declares (m : Manifest) (c : ClassDecl) (name : String) : Prop :=
  ∃ owner ∈ m.lineage c, ∃ p ∈ owner.properties, p.name = name

theorem Manifest.declares_of_owner? {m : Manifest} {c owner : ClassDecl} {name : String}
    (h : m.owner? c name = some owner) : m.Declares c name := by
  have hown : (owner.property? name).isSome = true := by simpa using List.find?_some h
  obtain ⟨p, hp⟩ := Option.isSome_iff_exists.mp hown
  exact ⟨owner, List.mem_of_find?_eq_some h, p, ClassDecl.mem_of_property? hp,
    by simpa using List.find?_some hp⟩

/-- Every path that the expression reads begins with a property of the class or of an ancestor. -/
def Expr.RootedIn (m : Manifest) (c : ClassDecl) (e : Expr) : Prop :=
  ∀ path ∈ e.paths, ∃ name, path.head? = some name ∧ m.Declares c name

namespace Accessor

variable {α β : Type}

/-- Whatever is compiled before, every result has the property. -/
def Returns (x : Compile α) (P : α → Prop) : Prop :=
  ∀ done a, (x.outcome done).1 = .ok a → P a

namespace Returns

variable {x : Compile α} {f : α → Compile β} {P : α → Prop} {Q : β → Prop}

theorem pure {a : α} (h : P a) : Returns (pure a) P := by
  intro done b hb
  exact Except.ok.inj hb ▸ h

theorem throw (e : BuildError) : Returns (throw e : Compile α) P := by
  intro done a h
  cases h

theorem fail {site : Site} (cause : BuildError.Cause) : Returns (site.fail cause) P := throw _

theorem bind (hx : Returns x P) (hf : ∀ a, P a → Returns (f a) Q) : Returns (x >>= f) Q := by
  intro done b hb
  rw [Compile.outcome_bind] at hb
  cases hout : x.outcome done with
  | mk r after =>
    rw [hout] at hb
    cases r with
    | error e => cases hb
    | ok a =>
      apply hf a _ after b hb
      apply hx done
      rw [hout]

theorem any (x : Compile α) : Returns x fun _ => True := fun _ _ _ => trivial

theorem lift {site : Site} {r : Except BuildError.Cause α} (h : ∀ a, r = .ok a → P a) :
    Returns (site.lift r) P := by
  cases r with
  | ok a => exact pure (h a rfl)
  | error cause => exact fail cause

end Returns

/-! The rules on operands read nothing that the operands do not read. -/

theorem guard_paths {l r : Typed} {guard : Expr} (h : Typed.guard? l r = some guard) :
    guard.paths ⊆ l.1.paths ++ r.1.paths := by
  unfold Typed.guard? at h
  split at h <;> simp only [Option.some.injEq, reduceCtorEq] at h <;> subst h
  · exact List.Subset.refl _
  · exact List.subset_append_left _ _
  · exact List.subset_append_right _ _

theorem compare_paths {op : BinaryOp} {l r : Typed} {e : Expr} (hop : op.isLogical = false)
    (h : Typed.compare op l r = .ok e) : e.paths ⊆ l.1.paths ++ r.1.paths := by
  rcases WellTyped.compare_cases hop h with
    ⟨-, -, rfl⟩ | ⟨-, -, -, ⟨-, rfl⟩ | ⟨guard, hguard, rfl⟩⟩
  · exact List.Subset.refl _
  · exact List.Subset.refl _
  · exact List.append_subset.mpr ⟨guard_paths hguard, List.Subset.refl _⟩

namespace Site

variable {site : Site} {x y : Compile Typed} {sofar : Expr}

/-- What the site makes reads its own class only. -/
abbrev Rooted (site : Site) (e : Expr) : Prop := e.RootedIn site.scope.whole site.owner

theorem Rooted.append {e l r : Expr} (hl : site.Rooted l) (hr : site.Rooted r)
    (h : e.paths ⊆ l.paths ++ r.paths) : site.Rooted e := by
  intro path hpath
  rcases List.mem_append.mp (h hpath) with h | h
  · exact hl path h
  · exact hr path h

theorem lift_condition {r : Typed} (h : site.Rooted r.1) :
    Returns (site.lift (Typed.condition r)) site.Rooted := by
  apply Returns.lift
  intro e he path hpath
  rw [condition_paths he] at hpath
  exact h path hpath

theorem member_rooted (path : List String) :
    Returns (site.member path) fun r => site.Rooted r.1 := by
  unfold Site.member
  split
  · exact .fail _
  next name rest =>
    have hname : Returns (site.memberType site.owner [name] name) fun _ =>
        site.scope.whole.Declares site.owner name := by
      unfold Site.memberType
      cases howner : site.scope.whole.owner? site.owner name with
      | none => exact .fail _
      | some owner => exact fun _ _ _ => Manifest.declares_of_owner? howner
    refine .bind hname fun leaf howned => ?_
    refine .bind (Returns.any _) fun r _ => ?_
    apply Returns.pure
    intro path hpath
    obtain rfl := List.mem_singleton.mp hpath
    exact ⟨name, rfl, howned⟩

theorem constant_rooted (k : Constant) : Returns (site.constant k) fun r => site.Rooted r.1 := by
  cases k with
  | none | bool | int | float | text =>
    apply Returns.pure
    intro path hpath
    cases hpath
  | imaginary | bytes | ellipsis => exact .fail _

theorem negative_rooted (k : Constant) : Returns (site.negative k) fun r => site.Rooted r.1 := by
  refine .bind (constant_rooted k) fun r _ => ?_
  split
  · apply Returns.pure
    intro path hpath
    cases hpath
  · apply Returns.pure
    intro path hpath
    cases hpath
  · exact .fail _

theorem comparison_rooted (hx : Returns x fun r => site.Rooted r.1)
    (hy : Returns y fun r => site.Rooted r.1) (a b : Bool) (op : CompareOp) :
    Returns (site.comparison ⟨a, x⟩ op ⟨b, y⟩) site.Rooted := by
  unfold Site.comparison
  split
  · split
    · exact .fail _
    split
    · exact .bind hy fun r hr => .pure hr
    · exact .bind hx fun l hl => .pure hl
  split
  · exact .fail _
  split
  · exact .fail _
  next operator hop =>
    refine .bind hx fun l hl => ?_
    refine .bind hy fun r hr => ?_
    apply Returns.lift
    intro e he
    exact hl.append hr (compare_paths (isLogical_of_binaryOp? hop) he)

theorem chain_rooted (more : List (CompareOp × Term)) (a : Bool)
    (hx : Returns x fun r => site.Rooted r.1) (hsofar : site.Rooted sofar)
    (hmore : ∀ p ∈ more, Returns (site.emit p.2) fun r => site.Rooted r.1) :
    Returns (site.chain sofar ⟨a, x⟩ (site.operands more)) fun r => site.Rooted r.1 := by
  induction more generalizing x a sofar with
  | nil => exact .pure hsofar
  | cons p more ih =>
    have hp := hmore p List.mem_cons_self
    simp only [Site.operands, Site.chain]
    refine .bind (comparison_rooted hx hp _ _ _) fun e he => ?_
    apply ih _ hp
    · exact hsofar.append he (List.Subset.refl _)
    · exact fun q hq => hmore q (List.mem_cons_of_mem _ hq)

mutual

/-- On the term: each form puts the paths of its parts together, and a path of members is looked
up in the class before it is read. -/
theorem emit_rooted : ∀ t : Term, Returns (site.emit t) fun r => site.Rooted r.1
  | .constant k => by
    rw [Site.emit]
    exact constant_rooted k
  | .access receiver name => by
    rw [Site.emit]
    split
    · exact member_rooted _
    · exact .fail _
  | .logical conjunction left right => by
    rw [Site.emit]
    refine .bind (emit_rooted left) fun l hl => ?_
    refine .bind (lift_condition hl) fun l' hl' => ?_
    refine .bind (emit_rooted right) fun r hr => ?_
    refine .bind (lift_condition hr) fun r' hr' => ?_
    exact .pure (hl'.append hr' (List.Subset.refl _))
  | .unary .not operand => by
    rw [Site.emit]
    refine .bind (emit_rooted operand) fun r hr => ?_
    exact .bind (lift_condition hr) fun e he => .pure he
  | .unary .minus operand => by
    cases operand with
    | constant k =>
      rw [Site.emit]
      exact negative_rooted k
    | _ => rw [Site.emit] <;> first | exact .fail _ | simp
  | .compare first op second more => by
    rw [Site.emit]
    refine .bind (comparison_rooted (emit_rooted first) (emit_rooted second) _ _ _) fun e he => ?_
    exact chain_rooted more _ (emit_rooted second) he (operands_rooted more)
  | .conditional test whenTrue whenFalse => by
    rw [Site.emit]
    refine .bind (emit_rooted test) fun c hc => ?_
    refine .bind (lift_condition hc) fun c' hc' => ?_
    refine .bind (emit_rooted whenTrue) fun t ht => ?_
    refine .bind (emit_rooted whenFalse) fun f hf => ?_
    refine .bind (Returns.any _) fun τ _ => ?_
    have hbranches : site.Rooted (.binary .and t.1 f.1) := ht.append hf (List.Subset.refl _)
    apply Returns.pure
    apply hc'.append hbranches
    simp [Expr.paths]
  | .unary .plus _ | .unary .invert _ => by
    rw [Site.emit] <;> first | exact .fail _ | simp
  | .name _ | .call _ => by
    rw [Site.emit]
    exact .fail _
  | .subscript .. | .arithmetic .. | .list _ | .tuple _ | .starred _ | .other _ => by
    rw [Site.emit] <;> first | exact .fail _ | simp

theorem operands_rooted :
    ∀ more : List (CompareOp × Term), ∀ p ∈ more, Returns (site.emit p.2) fun r => site.Rooted r.1
  | [], _, hp => by simp at hp
  | (_, t) :: rest, p, hp => by
    rcases List.mem_cons.mp hp with rfl | hp
    · exact emit_rooted t
    · exact operands_rooted rest p hp

end

theorem compile_rooted (site : Site) (a : Accessor) :
    Returns (site.compile a) fun r => site.Rooted r.expression := by
  refine .bind (emit_rooted a.expression) fun r hr => ?_
  split
  · exact .fail _
  · exact .bind (Returns.any _) fun t _ => .pure hr

end Site

variable {m m' : Manifest} {done : Progress} {c d : ClassDecl} {p : PropertyDecl}

/-- Compiling leaves the names of the properties of each class and of its ancestors. -/
theorem rootedIn_apply {e : Expr} (h : e.RootedIn m c) :
    e.RootedIn (done.apply m) (done.settleClass c) := by
  intro path hpath
  obtain ⟨name, hhead, owner, howner, q, hq, hname⟩ := h path hpath
  refine ⟨name, hhead, done.settleClass owner, ?_, done.settle owner q, ?_, ?_⟩
  · rw [Progress.lineage_apply]
    exact List.mem_map_of_mem howner
  · exact List.mem_map_of_mem hq
  · rw [Progress.settle_name, hname]

theorem compiled_rooted (hm : m.Fresh) (hcompile : m.compile = .ok m') (hd : d ∈ m'.classes)
    (hp : p ∈ d.computedProperties) : p.expression.RootedIn m' d := by
  obtain ⟨done, rfl, hbuilt, hdone⟩ := Manifest.compile_built hm hcompile
  obtain ⟨c, hc, q, hq, r, rfl, hr, rfl⟩ := exists_entry hm hdone hd hp
  obtain ⟨before, a, -, hcompiled⟩ := hbuilt.accepted hm hc hq hr
  apply rootedIn_apply
  apply Site.compile_rooted (siteOf m c q.name (known before)) a []
  rw [hcompiled]
  rfl

/-- An expression depends on nothing but the members that it lists, none of them twice: two
instances on which they read the same give the same, a value or an error. What an accessor is
compiled to, alone or with the whole manifest, lists only paths that begin with a property of the
class of the accessor or of an ancestor. -/
theorem determined_by_members :
    (∀ e : Expr, e.referencedMembers.Nodup ∧ ∀ i j : Value,
      (∀ path ∈ e.referencedMembers, i.memberPath path = j.memberPath path) →
        e.evaluate i = e.evaluate j) ∧
    (∀ (site : Site) (a : Accessor) (done : Progress) (r : Compiled),
      ((site.compile a).outcome done).1 = .ok r →
        ∀ path ∈ r.expression.referencedMembers,
          ∃ name, path.head? = some name ∧ site.scope.whole.Declares site.owner name) ∧
    ∀ (all : List Declaration) (m m' : Manifest), Resolve.manifest all = .ok m →
      m.compile = .ok m' → ∀ d ∈ m'.classes, ∀ p ∈ d.computedProperties,
        ∀ path ∈ p.expression.referencedMembers,
          ∃ name, path.head? = some name ∧ m'.Declares d name := by
  refine ⟨fun e => ⟨Expr.nodup_addPaths List.nodup_nil, fun i j h => ?_⟩, ?_, ?_⟩
  · apply Expr.evaluate_congr
    intro path hpath
    exact h path (Expr.mem_referencedMembers.mpr hpath)
  · intro site a done r hr path hpath
    exact Site.compile_rooted site a done r hr path (Expr.mem_referencedMembers.mp hpath)
  · intro all m m' hm hcompile d hd p hp path hpath
    exact compiled_rooted (Resolve.manifest_fresh hm) hcompile hd hp path
      (Expr.mem_referencedMembers.mp hpath)

/-- Items that differ in a note, which `same` does not read. -/
theorem determined_by_members_tagged :
    Sample.sameExpr.evaluate (Sample.anItem (Sample.aTag (.text "a")) (.text "a")) =
        Sample.sameExpr.evaluate (.mapping
          [("note", .int 1), ("title", .text "a"), ("tag", Sample.aTag (.text "a"))]) ∧
      Sample.built.Declares (Sample.itemClass .unresolved .hole) "title" ∧
      Sample.compiled.Declares (Sample.itemClass .boolean Sample.sameExpr) "tag" := by
  have hreads : Sample.sameExpr.referencedMembers = [["tag", "label"], ["title"]] := rfl
  obtain ⟨hdetermined, hmade, hcompiled⟩ := determined_by_members
  refine ⟨?_, ?_, ?_⟩
  · apply (hdetermined Sample.sameExpr).2
    rw [hreads]
    intro path hpath
    rcases List.mem_pair.mp hpath with rfl | rfl <;> rfl
  · have h := hmade (siteOf Sample.built (Sample.itemClass .unresolved .hole) "same"
      fun _ p => pure p.type) ⟨Sample.same, none⟩ [] ⟨Sample.sameExpr, .boolean⟩ rfl
    obtain ⟨name, hhead, hdeclares⟩ := h ["title"] (by rw [hreads]; decide)
    obtain rfl := Option.some.inj hhead
    exact hdeclares
  · have h := hcompiled _ _ _ Sample.built_eq Sample.compiled_eq
      (Sample.itemClass .boolean Sample.sameExpr)
      (List.mem_cons_of_mem _ (List.mem_singleton_self _)) _ (List.mem_singleton_self _)
    obtain ⟨name, hhead, hdeclares⟩ := h ["tag", "label"] (hreads ▸ List.mem_cons_self)
    obtain rfl := Option.some.inj hhead
    exact hdeclares

end Accessor

end ViewModel
