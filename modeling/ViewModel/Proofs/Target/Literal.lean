import ViewModel.Build.Field
import ViewModel.Proofs.Success
import ViewModel.Proofs.Target.Denotation
import ViewModel.Proofs.Target.Reading

/-!
Printed literals denote their values: each constant's literal does, and the texts of expressions and
of fields have that literal.
-/

namespace ViewModel

namespace Target

/-- The part of a field's line that sets its default. -/
def initializer (t : Target) (p : PropertyDecl) : Except PrintError String :=
  match t with
  | csharp => ClassFile.csharpInitializer p
  | typescript => .ok (ClassFile.typescriptInitializer p)
  | python => .ok (ClassFile.pythonDefault p)

/-- That part for a default with this literal. -/
def initialized : Target → String → String
  | csharp, literal => " = " ++ literal ++ ";"
  | _, literal => literal

end Target

section Expressions

variable {d : Dialect} {e : Expr} {s : Scalar}

theorem Dialect.mem_enclose {least level : Nat} {p : Piece} {ps : List Piece} (h : p ∈ ps) :
    p ∈ Dialect.enclose least level ps := by
  unfold Dialect.enclose
  split <;> simp [h]

/-- A constant of an expression is one of the words that the expression is printed as. -/
theorem Dialect.literal_mem_pieces
    (hconditional : ∀ p c t f, p ∈ c ∨ p ∈ t ∨ p ∈ f → p ∈ d.conditional c t f)
    (h : s ∈ e.literals) : .literal s ∈ d.pieces e := by
  induction e with
  | hole | member => simp [Expr.literals] at h
  | literal v =>
    obtain rfl : s = v := by simpa [Expr.literals] using h
    exact List.mem_singleton_self _
  | not e ih => exact List.mem_cons_of_mem _ (mem_enclose (ih h))
  | nullCheck e negated ih => exact List.mem_append_left _ (mem_enclose (ih h))
  | binary op l r ihl ihr =>
    rcases List.mem_append.mp h with hl | hr
    · exact List.mem_append_left _ (mem_enclose (ihl hl))
    · exact List.mem_append_right _ (List.mem_cons_of_mem _ (mem_enclose (ihr hr)))
  | ternary c t f ihc iht ihf =>
    refine hconditional _ _ _ _ ?_
    rcases Expr.mem_literals_ternary.mp h with hc | ht | hf
    · exact .inl (mem_enclose (ihc hc))
    · exact .inr (.inl (mem_enclose (iht ht)))
    · exact .inr (.inr (mem_enclose (ihf hf)))

theorem Target.literal_mem_pieces (t : Target) (h : s ∈ e.literals) :
    .literal s ∈ t.dialect.pieces e := by
  refine Dialect.literal_mem_pieces (fun p first second third hp => ?_) h
  cases t <;>
    simp only [Target.dialect, Dialect.csharp, Dialect.typescript, Dialect.python,
      Dialect.braceConditional, List.mem_append, List.mem_cons] <;>
    tauto

theorem Piece.textOf_append (ps qs : List Piece) :
    Piece.textOf d (ps ++ qs) = Piece.textOf d ps ++ Piece.textOf d qs := by
  simp [Piece.textOf]

/-- The text of an expression has the literal of each of its constants. -/
theorem Target.print_literal (t : Target) {text : String} (h : t.dialect.print e = .ok text)
    (hs : s ∈ e.literals) : ∃ before after,
      t.dialect.pieces e = before ++ .literal s :: after ∧
        text = Piece.textOf t.dialect before ++ t.dialect.literal s ++
          Piece.textOf t.dialect after := by
  obtain ⟨before, after, hpieces⟩ := List.append_of_mem (t.literal_mem_pieces hs)
  refine ⟨before, after, hpieces, ?_⟩
  rw [Dialect.print] at h
  split at h
  · obtain rfl := Except.ok.inj h
    rw [hpieces, ← List.singleton_append, Piece.textOf_append, Piece.textOf_append,
      ← String.append_assoc]
    simp [Piece.textOf, Piece.text]
  · cases h

end Expressions

namespace Field

variable {classes : List String} {value : Source.Term} {type : TypeRef} {default : Scalar}

theorem literal?_primitive (h : literal? value = some (type, default)) :
    ∃ k, type = .primitive k := by
  unfold literal? at h
  split at h <;> (try split at h) <;> simp at h <;> obtain ⟨rfl, -⟩ := h <;> exact ⟨_, rfl⟩

/-- A value that is no literal leaves the default to its type. -/
theorem ofValue?_literal (h : ofValue? classes value = .ok (some (type, default)))
    (hdefault : default ≠ .null) : literal? value = some (type, default) := by
  unfold ofValue? at h
  split at h
  · simp at h
  · obtain ⟨o, -, hr⟩ := Success.bind_eq_ok.mp h
    cases o with
    | none => simp at hr
    | some o =>
      simp only [pure, Except.pure, Except.ok.injEq, Option.some.injEq, Prod.mk.injEq] at hr
      exact absurd hr.2.symm hdefault
  · simp at h
  · split at h
    · split at h
      · simp only [Except.ok.injEq, Option.some.injEq, Prod.mk.injEq] at h
        exact absurd h.2.symm hdefault
      · simp at h
    · simp at h
  · split at h
    next hl =>
      obtain rfl := Option.some.inj (Except.ok.inj h)
      exact hl
    · simp at h

theorem ofHint_null {value hint : Option Source.Term}
    (h : ofHint classes value hint = .ok (type, default)) : default = .null := by
  cases hint with
  | none => simp [ofHint] at h
  | some hint =>
    obtain ⟨t, -, hr⟩ := Success.bind_eq_ok.mp h
    exact (congrArg Prod.snd (Success.pure_eq_ok.mp hr)).symm

theorem ofValue_literal {hint : Option Source.Term}
    (h : ofValue classes value hint = .ok (type, default)) (hdefault : default ≠ .null) :
    literal? value = some (type, default) := by
  obtain ⟨o, ho, hr⟩ := Success.bind_eq_ok.mp h
  cases o with
  | none => exact absurd (ofHint_null hr) hdefault
  | some o =>
    obtain rfl := Success.pure_eq_ok.mp hr
    exact ofValue?_literal ho hdefault

/-- Only a literal gives a field a default of its own. -/
theorem infer_literal {value hint : Option Source.Term}
    (h : infer classes value hint = .ok (type, default)) (hdefault : default ≠ .null) :
    ∃ v, value = some v ∧ literal? v = some (type, default) := by
  unfold infer at h
  split at h
  next v _ =>
    split at h
    · obtain ⟨t, -, hr⟩ := Success.bind_eq_ok.mp h
      cases t with
      | sequence t =>
        exact absurd (congrArg Prod.snd (Success.pure_eq_ok.mp hr)).symm hdefault
      | _ => simp at hr
    · exact ⟨v, rfl, ofValue_literal h hdefault⟩
  next v => exact ⟨v, rfl, ofValue_literal h hdefault⟩
  next => exact absurd (ofHint_null h) hdefault

end Field

namespace Target

/-- A field's line has the literal of the default that was inferred for the field. -/
theorem initializer_eq (t : Target) {classes : List String} {value hint : Option Source.Term}
    {p : PropertyDecl} (h : Field.infer classes value hint = .ok (p.type, p.default))
    (hdefault : p.default ≠ .null) :
    t.initializer p = .ok (t.initialized (t.dialect.literal p.default)) := by
  obtain ⟨v, -, hv⟩ := Field.infer_literal h hdefault
  obtain ⟨k, hk⟩ := Field.literal?_primitive hv
  have hliteral (literal : Scalar → String) (zero : Primitive → String) :
      ClassFile.primitiveDefault literal zero k p.default = literal p.default := by
    cases hcase : p.default with
    | null => exact absurd hcase hdefault
    | _ => rfl
  cases t
  · simp only [initializer, ClassFile.csharpInitializer, hk, hliteral]
    rfl
  · simp only [initializer, ClassFile.typescriptInitializer, hk, hliteral]
    rfl
  · simp only [initializer, ClassFile.pythonDefault, hk, hliteral]
    rfl

/-- Literals denote the constants they are printed for. Each constant but a float that is not
finite has a literal that denotes it in every target; the text of an expression has that literal
for each of its constants, and the line of a field has it for the default inferred for the field. -/
theorem literals_denoted (t : Target) :
    (∀ s : Scalar, t.denoted? (t.dialect.literal s) = if s.isFinite then some s else none) ∧
      (∀ (e : Expr) (text : String), t.dialect.print e = .ok text → ∀ s ∈ e.literals,
        ∃ before after, t.dialect.pieces e = before ++ .literal s :: after ∧
          text = Piece.textOf t.dialect before ++ t.dialect.literal s ++
            Piece.textOf t.dialect after) ∧
      ∀ (classes : List String) (value hint : Option Source.Term) (p : PropertyDecl),
        Field.infer classes value hint = .ok (p.type, p.default) → p.default ≠ .null →
          t.initializer p = .ok (t.initialized (t.dialect.literal p.default)) :=
  ⟨t.denoted?_literal, fun _ _ h _ hs => t.print_literal h hs,
    fun _ _ _ _ h hdefault => t.initializer_eq h hdefault⟩

/-- The default of a field is minus one tenth, and a name is compared with a quotation. -/
theorem literals_denoted_tenth :
    let tenth := Double.finite false 7205759403792794 (-56) (by decide)
    let rate : PropertyDecl := { name := "rate", type := .float, default := .float tenth.neg }
    let name := Expr.binary .equals (.member ["name"] []) (.literal (.text "it's"))
    python.denoted? (python.dialect.literal rate.default) = some rate.default ∧
      csharp.initializer rate = .ok " = -0.1;" ∧
      ∃ before after, python.dialect.pieces name = before ++ .literal (.text "it's") :: after ∧
        "self.name == \"it's\"" = Piece.textOf python.dialect before ++
          python.dialect.literal (.text "it's") ++ Piece.textOf python.dialect after := by
  intro tenth rate name
  refine ⟨(literals_denoted python).1 rate.default, ?_, ?_⟩
  · have hline : csharp.initialized (csharp.dialect.literal rate.default) = " = -0.1;" := by
      decide +kernel
    rw [← hline]
    exact (literals_denoted csharp).2.2 [] (some (.unary .minus (.constant (.float tenth)))) none
      rate rfl (by decide)
  · exact (literals_denoted python).2.1 name _ (by decide +kernel) _ (by decide)

/-- A literal beyond the range of doubles is read as an infinite float and printed as a name. -/
theorem literals_denoted_overflow :
    let overflow := Scalar.float (.infinite false)
    Source.numeral? "1e400".toList = some (.number (.float (.infinite false)), []) ∧
      Field.infer [] (some (.constant (.float (.infinite false)))) none = .ok (.float, overflow) ∧
      ∀ t : Target, t.initializer { name := "x", type := .float, default := overflow } =
          .ok (t.initialized "inf") ∧
        t.dialect.literal overflow = "inf" ∧ t.denoted? "inf" = none := by
  refine ⟨by decide +kernel, rfl, fun t => ⟨?_, ?_, ?_⟩⟩
  · cases t <;> rfl
  · cases t <;> rfl
  · cases t <;> decide +kernel

end Target

end ViewModel
