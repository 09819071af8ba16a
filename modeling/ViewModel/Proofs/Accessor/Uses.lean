import ViewModel.Proofs.Accessor.Progress

/-!
Which computed properties an accessor reads. Every path that the accessor reads is one of the
expression that it is compiled to.
-/

namespace ViewModel

open Source (Term CompareOp)

namespace Manifest

/-- `PathNames m type c path key`: some segment of a path from the class `c` names the computed
property `key`. The types of properties say which class a segment leads to. -/
inductive PathNames (m : Manifest) (type : ClassDecl → PropertyDecl → TypeRef) :
    String → List String → Accessor.Key → Prop
  | here {c name : String} {rest : List String} {d owner : ClassDecl} {q : PropertyDecl}
      (hd : m.class? c = some d) (howner : m.owner? d name = some owner)
      (hq : owner.property? name = some q) (hcomputed : q.computed = true) :
      PathNames m type c (name :: rest) (owner.name, q.name)
  | there {c c' name : String} {rest : List String} {d owner : ClassDecl} {q : PropertyDecl}
      {key : Accessor.Key} (hd : m.class? c = some d) (howner : m.owner? d name = some owner)
      (hq : owner.property? name = some q) (htype : (type owner q).stripNull = .reference c')
      (more : PathNames m type c' rest key) : PathNames m type c (name :: rest) key

/-- The computed property `key` reads a path that names the computed property `key'`. -/
def Uses (m : Manifest) (type : ClassDecl → PropertyDecl → TypeRef)
    (paths : PropertyDecl → List (List String)) (key key' : Accessor.Key) : Prop :=
  ∃ c ∈ m.classes, ∃ p ∈ c.computedProperties, key = (c.name, p.name) ∧
    ∃ path ∈ paths p, m.PathNames type c.name path key'

end Manifest

/-- Every path of a well-typed expression leads somewhere. -/
theorem WellTyped.pathType {m : Manifest} {c : String} {e : Expr} {τ : Typing} {path : List String}
    (h : WellTyped m c e τ) (hpath : path ∈ e.paths) :
    ∃ nullSafe u, PathType m 0 (.reference c) path nullSafe u := by
  induction h with
  | literal => simp [Expr.paths] at hpath
  | member h =>
    obtain rfl : path = _ := by simpa [Expr.paths] using hpath
    exact ⟨_, _, h⟩
  | nullCheck _ _ ih | not _ ih => exact ih hpath
  | logical _ _ _ ihl ihr | equality _ _ _ _ ihl ihr | ordering _ _ _ _ _ ihl ihr =>
    exact (List.mem_append.mp hpath).elim ihl ihr
  | guarded _ _ _ _ _ _ _ ihl ihr ihguard =>
    exact (List.mem_append.mp hpath).elim ihguard fun h => (List.mem_append.mp h).elim ihl ihr
  | ternary _ _ _ _ ihc ihl ihr =>
    exact (List.mem_append.mp hpath).elim (fun h => (List.mem_append.mp h).elim ihc ihl) ihr

namespace Accessor

mutual

/-- The paths from `self` that a term reads. -/
def termPaths : Term → List (List String)
  | .access receiver name =>
      match Site.path? receiver with
      | some path => [path ++ [name]]
      | none => termPaths receiver
  | .logical _ left right | .arithmetic _ left right | .subscript left right =>
      termPaths left ++ termPaths right
  | .unary _ t | .call t | .starred t => termPaths t
  | .compare first _ second more => termPaths first ++ termPaths second ++ linkPaths more
  | .conditional test whenTrue whenFalse =>
      termPaths test ++ termPaths whenTrue ++ termPaths whenFalse
  | .list items | .tuple items => itemPaths items
  | .constant _ | .name _ | .other _ => []

def linkPaths : List (CompareOp × Term) → List (List String)
  | [] => []
  | (_, t) :: rest => termPaths t ++ linkPaths rest

def itemPaths : List Term → List (List String)
  | [] => []
  | t :: rest => termPaths t ++ itemPaths rest

end

/-- The paths that the accessor of a property reads. -/
def accessorPaths (p : PropertyDecl) : List (List String) :=
  (p.accessor.map fun a => termPaths a.expression).getD []

variable {m : Manifest} {c : String} {t : Term} {e : Expr} {τ : Typing}

/-! Compiling keeps every path that an accessor reads. -/

theorem linkPaths_append (more : List (CompareOp × Term)) (op : CompareOp) (last : Term) :
    linkPaths (more ++ [(op, last)]) = linkPaths more ++ termPaths last := by
  induction more with
  | nil => simp [linkPaths]
  | cons p more ih =>
    obtain ⟨op', t⟩ := p
    simp [linkPaths, ih, List.append_assoc]

theorem condition_paths {e e' : Expr} {a : Typing} (h : Typed.condition (e, a) = .ok e') :
    e'.paths = e.paths := by
  unfold Typed.condition at h
  split at h
  next heq =>
    obtain ⟨rfl, rfl⟩ := Prod.mk.inj heq
    split at h
    · cases h
    · rw [← Except.ok.inj h, Expr.paths]
  next heq =>
    obtain ⟨rfl, rfl⟩ := Prod.mk.inj heq
    split at h
    · rw [← Except.ok.inj h]
    · cases h

/-- A link reads what its operands read; a test for null leaves out `None`, which reads nothing. -/
theorem Link.paths {x y : Term} {l r : Typed} {op : CompareOp} {e : Expr}
    (h : Link x l op y r e) (hl : termPaths x ⊆ l.1.paths) (hr : termPaths y ⊆ r.1.paths) :
    termPaths x ++ termPaths y ⊆ e.paths := by
  cases h with
  | nullLeft _ hx => simpa [isNone_eq_true hx, termPaths, Expr.paths] using hr
  | nullRight _ hy => simpa [isNone_eq_true hy, termPaths, Expr.paths] using hl
  | values hop h =>
    have hboth : termPaths x ++ termPaths y ⊆ l.1.paths ++ r.1.paths :=
      List.append_subset.mpr ⟨List.subset_append_of_subset_left _ hl,
        List.subset_append_of_subset_right _ hr⟩
    rcases WellTyped.compare_cases (isLogical_of_binaryOp? hop) h with
      ⟨-, -, rfl⟩ | ⟨-, -, -, ⟨-, rfl⟩ | ⟨guard, -, rfl⟩⟩
    · exact hboth
    · exact hboth
    · exact List.subset_append_of_subset_right _ hboth

theorem Elaborates.paths (h : Elaborates m c t e τ) : termPaths t ⊆ e.paths := by
  induction h with
  | constant | negative => simp [termPaths]
  | member hpath _ => simp [termPaths, hpath, Expr.paths]
  | logical _ hl _ hr ihl ihr =>
    rw [termPaths, Expr.paths, condition_paths hl, condition_paths hr]
    exact List.append_subset.mpr ⟨List.subset_append_of_subset_left _ ihl,
      List.subset_append_of_subset_right _ ihr⟩
  | not _ he ih => simpa [termPaths, Expr.paths, condition_paths he] using ih
  | pair _ _ hlink ihl ihr => simpa [termPaths, linkPaths] using hlink.paths ihl ihr
  | chain _ _ _ hlink ihsofar ihl ihr =>
    have hlast := (List.append_subset.mp (hlink.paths ihl ihr)).2
    rw [termPaths] at ihsofar
    rw [termPaths, linkPaths_append, ← List.append_assoc, Expr.paths]
    exact List.append_subset.mpr ⟨List.subset_append_of_subset_left _ ihsofar,
      List.subset_append_of_subset_right _ hlast⟩
  | conditional _ hcondition _ _ _ ihtest ihl ihr =>
    rw [termPaths, Expr.paths, condition_paths hcondition]
    exact List.append_subset.mpr ⟨List.append_subset.mpr
      ⟨List.subset_append_of_subset_left _ (List.subset_append_of_subset_left _ ihtest),
        List.subset_append_of_subset_left _ (List.subset_append_of_subset_right _ ihl)⟩,
      List.subset_append_of_subset_right _ ihr⟩

end Accessor

end ViewModel
