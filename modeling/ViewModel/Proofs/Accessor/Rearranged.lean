import ViewModel.Proofs.Accessor.Cycles
import ViewModel.Proofs.Accessor.Soundness
import ViewModel.Proofs.Build.Accepted
import ViewModel.Proofs.Build.Rearranged

/-!
Classes in another order. What an accessor reads is found by names, so compiling a property does the
same wherever its class stands; and since what is compiled first comes out the same as what is
compiled last, so does compiling all of them.
-/

namespace ViewModel

open Source (Term Constant CompareOp)

namespace Manifest

variable {m m' : Manifest}

theorem class?_eq_some_iff (hm : m.names.Nodup) {name : String} {c : ClassDecl} :
    m.class? name = some c ↔ c ∈ m.classes ∧ c.name = name := by
  constructor
  · exact fun h => ⟨mem_of_class? h, name_of_class? h⟩
  · rintro ⟨hc, rfl⟩
    exact class?_eq_some hm hc

/-- Two manifests of the same classes, which are told apart by their names. -/
structure Rearranges (m m' : Manifest) : Prop where
  classes : m.classes.Perm m'.classes
  names : m.names.Nodup

namespace Rearranges

variable (h : m.Rearranges m')

include h

theorem perm_names : m.names.Perm m'.names := h.classes.map _

theorem class? : m.class? = m'.class? := by
  funext name
  refine Option.ext fun c => ?_
  rw [class?_eq_some_iff h.names, class?_eq_some_iff (h.perm_names.nodup_iff.mp h.names),
    h.classes.mem_iff]

theorem ancestry (n : Nat) : m.ancestry n = m'.ancestry n := by
  have hparent (c : ClassDecl) : m.parent? c = m'.parent? c := by
    rw [parent?, parent?, h.class?]
  induction n with
  | zero => rfl
  | succ n ih =>
    funext c
    rw [Manifest.ancestry, Manifest.ancestry, hparent, ih]

theorem owner? : m.owner? = m'.owner? := by
  funext c name
  rw [Manifest.owner?, Manifest.owner?, lineage, lineage, h.ancestry, h.classes.length_eq]

theorem summary : m.summary = m'.summary := by
  have hlength (f : ClassDecl → List PropertyDecl) :
      (m.classes.flatMap f).length = (m'.classes.flatMap f).length :=
    (h.classes.flatMap_right f).length_eq
  rw [Manifest.summary, Manifest.summary, h.classes.length_eq, hlength, hlength]

end Rearranges

end Manifest

namespace Accessor

variable {α β : Type} {m m' : Manifest} {c : ClassDecl} {p : PropertyDecl} {done : Progress}

section Site

variable {name : String} {types : Types}

theorem memberType_rearranged (h : m.Rearranges m') (receiver : ClassDecl)
    (path : List String) (segment : String) :
    (siteOf m c name types).memberType receiver path segment =
      (siteOf m' c name types).memberType receiver path segment := by
  simp only [Site.memberType, h.owner?]
  rfl

theorem follow_rearranged (h : m.Rearranges m') (path : List String) (leaf : TypeRef)
    (nullSafe : List Int) (rest : List String) :
    (siteOf m c name types).follow path leaf nullSafe rest =
      (siteOf m' c name types).follow path leaf nullSafe rest := by
  induction rest generalizing path leaf nullSafe with
  | nil => rfl
  | cons segment rest ih =>
    simp only [Site.follow, h.class?, memberType_rearranged h, ih]
    rfl

theorem member_rearranged (h : m.Rearranges m') (path : List String) :
    (siteOf m c name types).member path = (siteOf m' c name types).member path := by
  simp only [Site.member, memberType_rearranged h, follow_rearranged h]
  rfl

theorem chain_rearranged (m m' : Manifest) (sofar : Expr) (left : Site.Operand)
    (more : List (CompareOp × Site.Operand)) :
    (siteOf m c name types).chain sofar left more =
      (siteOf m' c name types).chain sofar left more := by
  induction more generalizing sofar left with
  | nil => rfl
  | cons link more ih =>
    obtain ⟨op, right⟩ := link
    simp only [Site.chain, ih]
    rfl

mutual

theorem emit_rearranged (h : m.Rearranges m') : ∀ t : Term,
    (siteOf m c name types).emit t = (siteOf m' c name types).emit t
  | .access receiver segment => by
    simp only [Site.emit, member_rearranged h]
    rfl
  | .logical conjunction left right => by
    simp only [Site.emit, emit_rearranged h left, emit_rearranged h right]
    rfl
  | .unary .not operand => by
    simp only [Site.emit, emit_rearranged h operand]
    rfl
  | .compare first op second more => by
    simp only [Site.emit, emit_rearranged h first, emit_rearranged h second,
      operands_rearranged h more, chain_rearranged m m']
    rfl
  | .conditional test whenTrue whenFalse => by
    simp only [Site.emit, emit_rearranged h test, emit_rearranged h whenTrue,
      emit_rearranged h whenFalse]
    rfl
  | .unary .minus operand => by
    cases operand <;> rfl
  | .constant _ | .unary .plus _ | .unary .invert _ | .name _ | .call _ | .subscript ..
  | .arithmetic .. | .list _ | .tuple _ | .starred _ | .other _ => by
    simp only [Site.emit]
    rfl

theorem operands_rearranged (h : m.Rearranges m') : ∀ more : List (CompareOp × Term),
    (siteOf m c name types).operands more = (siteOf m' c name types).operands more
  | [] => by simp only [Site.operands]
  | (op, t) :: rest => by
    simp only [Site.operands, emit_rearranged h t, operands_rearranged h rest]

end

theorem compile_rearranged (h : m.Rearranges m') (a : Accessor) :
    (siteOf m c name types).compile a = (siteOf m' c name types).compile a := by
  have hdeclared (t : TypeRef) (hint : Option Term) :
      (siteOf m c name types).declaredType t hint =
        (siteOf m' c name types).declaredType t hint := by
    cases hint with
    | none => rfl
    | some hint =>
      simp only [Site.declaredType, Hint.type_perm h.perm_names]
      rfl
  simp only [Site.compile, emit_rearranged h, hdeclared]
  rfl

end Site

theorem ensure_rearranged (h : m.Rearranges m') : ensure ⟨m, m⟩ = ensure ⟨m', m'⟩ := by
  have hstep (ensure : Ensure) : ensureStep ⟨m, m⟩ ensure = ensureStep ⟨m', m'⟩ ensure := by
    funext active c p
    refine Compile.ext fun done => ?_
    simp only [ensureStep_outcome, compile_rearranged h]
  have hwith (fuel : Nat) : ensureWith ⟨m, m⟩ fuel = ensureWith ⟨m', m'⟩ fuel := by
    induction fuel with
    | zero => rfl
    | succ fuel ih => rw [ensureWith_succ, ensureWith_succ, ih, hstep]
  funext c p
  simp only [ensure, hwith, h.summary]

/-- Tasks all succeed one after the other if and only if each of them succeeds at first. -/
theorem Task.forM_succeeds (hm : m.Fresh) (task : β → Task) {xs : List β}
    (h : ∀ b ∈ xs, (task b).Within m) (hdone : Waiting m [] done) :
    ((xs.forM fun b => (task b).run m).outcome done).1 = .ok () ↔
      ∀ b ∈ xs, (((task b).run m).outcome []).1 = .ok () := by
  induction xs generalizing done with
  | nil => simp [List.forM]
  | cons b xs ih =>
    obtain ⟨hb, hxs⟩ := List.forall_mem_cons.mp h
    have hfirst := (Task.run_agrees hm hb [] done ⟨.nil, hdone, .nil done⟩).1
    have hbuilt := (Task.run_built hm hb done hdone trivial).1
    rw [List.forM, Compile.outcome_bind, List.forall_mem_cons, hfirst]
    rcases hout : ((task b).run m).outcome done with ⟨_ | _, after⟩ <;> rw [hout] at hbuilt
    · simp
    · simpa using ih hxs hbuilt

/-- A property as compiling it before all others leaves it. -/
def firstSettled (m : Manifest) (c : ClassDecl) (p : PropertyDecl) : PropertyDecl :=
  ((ensure ⟨m, m⟩ c p).outcome []).2.settle c p

def firstClass (m : Manifest) (c : ClassDecl) : ClassDecl :=
  { c with properties := c.properties.map (firstSettled m c) }

/-- Where all is compiled, a property is as compiling it before all others leaves it. -/
theorem settle_firstSettled (hm : m.Fresh) (hbuilt : Built m done)
    (hdone : ∀ c ∈ m.classes, ∀ p ∈ c.computedProperties, isDone done c p = true)
    (hc : c ∈ m.classes) (hp : p ∈ c.properties) : done.settle c p = firstSettled m c p := by
  cases hcomputed : p.computed with
  | false => simp [firstSettled, Progress.settle, isDone, hcomputed]
  | true =>
    have hfresh := hm.properties c hc p hp
    obtain ⟨r, hr⟩ := lookup_of_isDone hfresh hcomputed
      (hdone c hc p (List.mem_filter.mpr ⟨hp, hcomputed⟩))
    obtain ⟨first, hout, -, hfirst⟩ := hbuilt.reproduces hm hc hp hcomputed hr (.refl done)
      (.start m) (by simp) (.nil done)
    rw [firstSettled, ensure, hout, Progress.settle_computed hfresh hcomputed hr,
      Progress.settle_computed hfresh hcomputed hfirst]

end Accessor

open Accessor

namespace Manifest

variable {m m' n : Manifest}

theorem exists_compile_iff :
    (∃ n, m.compile = .ok n) ↔ ((compileAll ⟨m, m⟩).outcome []).1 = .ok () := by
  constructor
  · rintro ⟨n, h⟩
    obtain ⟨done, hout, -⟩ := compile_outcome h
    rw [hout]
  · intro h
    unfold compile
    rcases hout : (compileAll ⟨m, m⟩).outcome [] with ⟨r, done⟩
    rw [hout] at h
    obtain rfl : r = .ok () := h
    rw [Compile.outcome] at hout
    rw [hout]
    exact ⟨_, rfl⟩

/-- All properties are compiled together exactly where each of them is compiled before all others,
and to the same. -/
theorem compile_eq_ok_iff (hm : m.Fresh) : m.compile = .ok n ↔
    (∀ c ∈ m.classes, ∀ p ∈ c.computedProperties,
      ((ensure ⟨m, m⟩ c p).outcome []).1 = .ok ()) ∧ n = ⟨m.classes.map (firstClass m)⟩ := by
  have hnil : Waiting m [] [] := ⟨.nil, by simp⟩
  have hall : ((compileAll ⟨m, m⟩).outcome []).1 = .ok () ↔
      ∀ c ∈ m.classes, ∀ p ∈ c.computedProperties,
        ((ensure ⟨m, m⟩ c p).outcome []).1 = .ok () := by
    refine (Task.forM_succeeds hm Task.classOf (fun _ hc => hc) hnil).trans ?_
    refine forall₂_congr fun c hc => ?_
    exact Task.forM_succeeds hm (Task.property c)
      (fun p hp => ⟨hc, List.mem_of_mem_filter hp⟩) hnil
  have hsettled (n : Manifest) (h : m.compile = .ok n) :
      n = ⟨m.classes.map (firstClass m)⟩ := by
    obtain ⟨done, rfl, hbuilt, hdone⟩ := compile_built hm h
    refine congrArg Manifest.mk (List.map_congr_left fun c hc => ?_)
    have hproperties : c.properties.map (done.settle c) = c.properties.map (firstSettled m c) :=
      List.map_congr_left fun p hp => settle_firstSettled hm hbuilt hdone hc hp
    rw [Progress.settleClass, firstClass, hproperties]
  constructor
  · intro h
    exact ⟨hall.mp (exists_compile_iff.mp ⟨n, h⟩), hsettled n h⟩
  · rintro ⟨heach, rfl⟩
    obtain ⟨n, h⟩ := exists_compile_iff.mpr (hall.mpr heach)
    rw [h, hsettled n h]

/-- The same classes in another order are compiled alike. -/
theorem compile_rearranged (hm : m.Fresh) (hm' : m'.Fresh) (h : m.Rearranges m')
    (hcompile : m.compile = .ok n) : ∃ n', m'.compile = .ok n' ∧ n.Rearranges n' := by
  obtain ⟨heach, rfl⟩ := (compile_eq_ok_iff hm).mp hcompile
  have hclass : firstClass m = firstClass m' := by
    funext c
    have hfirst : firstSettled m c = firstSettled m' c := by
      funext p
      rw [firstSettled, firstSettled, ensure_rearranged h]
    rw [firstClass, firstClass, hfirst]
  have heach' : ∀ c ∈ m'.classes, ∀ p ∈ c.computedProperties,
      ((ensure ⟨m', m'⟩ c p).outcome []).1 = .ok () := by
    intro c hc
    rw [← ensure_rearranged h]
    exact heach c (h.classes.mem_iff.mpr hc)
  refine ⟨_, (compile_eq_ok_iff hm').mpr ⟨heach', rfl⟩, ?_, ?_⟩
  · rw [← hclass]
    exact h.classes.map _
  · have hnames : (Manifest.mk (m.classes.map (firstClass m))).names = m.names := by
      simp [names, Function.comp_def, firstClass]
    rw [hnames]
    exact h.names

end Manifest

namespace Resolve

variable {all all' : List Source.Declaration} {n n' : Manifest}

/-- The manifest of some declarations with every accessor compiled. -/
abbrev compiled (all : List Source.Declaration) : Except BuildError Manifest :=
  manifest all >>= Manifest.compile

theorem compiled_rearranged (h : all.Perm all') (hn : compiled all = .ok n) :
    ∃ n', compiled all' = .ok n' ∧ n.Rearranges n' := by
  obtain ⟨m, hm, hcompile⟩ := Success.bind_eq_ok.mp hn
  obtain ⟨m', hm', hclasses⟩ := manifest_perm h hm
  obtain ⟨n', hcompile', hrearranged⟩ := Manifest.compile_rearranged (manifest_fresh hm)
    (manifest_fresh hm') ⟨hclasses, (manifest_fresh hm).names⟩ hcompile
  exact ⟨n', Success.bind_eq_ok.mpr ⟨m', hm', hcompile'⟩, hrearranged⟩

theorem names_of_compiled (hn : compiled all = .ok n) : n.names = all.map (·.name) := by
  obtain ⟨m, hm, hcompile⟩ := Success.bind_eq_ok.mp hn
  obtain ⟨-, rfl⟩ := (Manifest.compile_eq_ok_iff (manifest_fresh hm)).mp hcompile
  rw [← names_of_manifest hm]
  simp [Manifest.names, Function.comp_def, firstClass]

/-- Declarations in another order are built if and only if they are built in the first; what comes
of it has the classes in that order, and finds the same class under every name. -/
theorem compiled_perm (h : all.Perm all') :
    ((∃ n, compiled all = .ok n) ↔ ∃ n', compiled all' = .ok n') ∧
      ∀ n n', compiled all = .ok n → compiled all' = .ok n' →
        n.names = all.map (·.name) ∧ n'.names = all'.map (·.name) ∧
          ∀ name, n.class? name = n'.class? name := by
  refine ⟨⟨?_, ?_⟩, fun n n' hn hn' => ⟨names_of_compiled hn, names_of_compiled hn', ?_⟩⟩
  · rintro ⟨n, hn⟩
    obtain ⟨n', hn', -⟩ := compiled_rearranged h hn
    exact ⟨n', hn'⟩
  · rintro ⟨n', hn'⟩
    obtain ⟨n, hn, -⟩ := compiled_rearranged h.symm hn'
    exact ⟨n, hn⟩
  · obtain ⟨n₁, hn₁, hrearranged⟩ := compiled_rearranged h hn
    obtain rfl := Except.ok.inj (hn'.symm.trans hn₁)
    intro name
    rw [hrearranged.class?]

/-- A class may be declared before or after one that it refers to. -/
theorem compiled_perm_tagged : ∃ n, compiled [Sample.item, Sample.tag] = .ok n ∧
    n.names = ["Item", "Tag"] ∧
    n.class? "Item" = some (Sample.itemClass .boolean Sample.sameExpr) := by
  have hcompiled : compiled [Sample.tag, Sample.item] = .ok Sample.compiled :=
    Success.bind_eq_ok.mpr ⟨_, Sample.built_eq, Sample.compiled_eq⟩
  obtain ⟨hiff, hsame⟩ := compiled_perm (List.Perm.swap Sample.item Sample.tag [])
  obtain ⟨n, hn⟩ := hiff.mp ⟨_, hcompiled⟩
  obtain ⟨-, hnames, hclass⟩ := hsame _ n hcompiled hn
  exact ⟨n, hn, hnames, (hclass "Item").symm⟩

end Resolve

end ViewModel
