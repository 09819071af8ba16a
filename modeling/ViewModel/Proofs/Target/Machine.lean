import ViewModel.Proofs.Expr.Reached
import ViewModel.Proofs.Target.Reading

/-!
Running printed expressions. A machine says what the words of a target do; where it agrees with the
evaluator on each kind of word, it agrees with it on every well-typed expression.
-/

namespace ViewModel

/-- What the words of a target do to its values. `none` is an error. Where a truth value is asked
for, a value counts as one or is an error; `walk` reads a path of properties, each with the mark of
a receiver that may be null. -/
structure Machine (α : Type) where
  literal : Scalar → α
  ofBool : Bool → α
  truth? : α → Option Bool
  walk : α → List (Bool × String) → Option α
  conjunction : String
  disjunction : String
  compare? : String → α → α → Option Bool
  /-- Whether the condition of a conditional stands first, before the two values. -/
  conditionFirst : Bool

namespace Machine

variable {α : Type}

mutual

/-- The value of a phrase. Logical operations stop as soon as their left operand decides. -/
def run (M : Machine α) (self : α) : Phrase → Option α
  | .literal s => some (M.literal s)
  | .path accesses => M.walk self accesses
  | .negated s => do return M.ofBool !(← M.truth? (← M.run self s))
  | .joined op left right => do
      let x ← M.run self left
      if op = M.conjunction then
        if ← M.truth? x then
          let y ← M.run self right
          let _ ← M.truth? y
          return y
        else return x
      else if op = M.disjunction then
        if ← M.truth? x then return x
        else
          let y ← M.run self right
          let _ ← M.truth? y
          return y
      else
        let y ← M.run self right
        return M.ofBool (← M.compare? op x y)
  | .chained op left right => do
      let x ← M.run self left
      if ← M.truth? x then
        let y ← M.runLast self left
        let z ← M.run self right
        return M.ofBool (← M.compare? op y z)
      else return x
  | .conditional first second third => do
      if M.conditionFirst then
        if ← M.truth? (← M.run self first) then M.run self second else M.run self third
      else
        if ← M.truth? (← M.run self second) then M.run self first else M.run self third

/-- The value of the last operand of a chain of comparisons. -/
def runLast (M : Machine α) (self : α) : Phrase → Option α
  | .joined _ _ right | .chained _ _ right => M.run self right
  | _ => none

end

variable {M : Machine α} {self x y : α} {s t u : Phrase} {op : String} {p : Bool}

attribute [local simp] run

theorem run_negated (hs : M.run self s = some x) (hx : M.truth? x = some p) :
    M.run self (.negated s) = some (M.ofBool !p) := by
  simp [hs, hx]

theorem run_conjunction_false (hs : M.run self s = some x) (hx : M.truth? x = some false) :
    M.run self (.joined M.conjunction s t) = some x := by
  simp [hs, hx]

theorem run_conjunction_true (hs : M.run self s = some x) (hx : M.truth? x = some true)
    (ht : M.run self t = some y) (hy : M.truth? y = some p) :
    M.run self (.joined M.conjunction s t) = some y := by
  simp [hs, hx, ht, hy]

theorem run_disjunction_true (hne : M.disjunction ≠ M.conjunction) (hs : M.run self s = some x)
    (hx : M.truth? x = some true) : M.run self (.joined M.disjunction s t) = some x := by
  simp [hne, hs, hx]

theorem run_disjunction_false (hne : M.disjunction ≠ M.conjunction) (hs : M.run self s = some x)
    (hx : M.truth? x = some false) (ht : M.run self t = some y) (hy : M.truth? y = some p) :
    M.run self (.joined M.disjunction s t) = some y := by
  simp [hne, hs, hx, ht, hy]

theorem run_comparison (hop : op ≠ M.conjunction ∧ op ≠ M.disjunction)
    (hs : M.run self s = some x) (ht : M.run self t = some y)
    (h : M.compare? op x y = some p) : M.run self (.joined op s t) = some (M.ofBool p) := by
  simp [hop.1, hop.2, hs, ht, h]

theorem run_conditional_first (hfirst : M.conditionFirst = true) (hs : M.run self s = some x)
    (hx : M.truth? x = some p) :
    M.run self (.conditional s t u) = if p then M.run self t else M.run self u := by
  cases p <;> simp [hfirst, hs, hx]

theorem run_conditional_second (hsecond : M.conditionFirst = false) (hs : M.run self s = some x)
    (hx : M.truth? x = some p) :
    M.run self (.conditional t s u) = if p then M.run self t else M.run self u := by
  cases p <;> simp [hsecond, hs, hx]

/-- Operations only see the values of their operands. -/
theorem run_joined_congr {s' t' : Phrase} (hs : M.run self s = M.run self s')
    (ht : M.run self t = M.run self t') :
    M.run self (.joined op s t) = M.run self (.joined op s' t') := by
  simp only [run, hs, ht]

theorem run_conditional_congr {s' t' u' : Phrase} (hs : M.run self s = M.run self s')
    (ht : M.run self t = M.run self t') (hu : M.run self u = M.run self u') :
    M.run self (.conditional s t u) = M.run self (.conditional s' t' u') := by
  simp only [run, hs, ht, hu]

end Machine

namespace Value

/-- Whether reading a path stops at a receiver that is null. -/
def cutShort : Value → List String → Bool
  | _, [] => false
  | v, name :: rest => v.isNull || (v.member name).cutShort rest

end Value

namespace Expr

/-- Whether an expression has no value because a receiver on the path that it reads is null. -/
def absent (v : Value) : Expr → Bool
  | member path _ => v.cutShort path
  | ternary c t f => if c.holds v then t.absent v else f.absent v
  | _ => false

section Settled

variable (exact : Scalar → Prop) (apart : Bool → Value → Bool → Value → Prop) (v : Value)

/-- A constant has `exact`, and an equality has no operands that are `apart`; an operand is told by
whether it is absent and by its value. -/
def Fits : Expr → Prop
  | literal s => exact s
  | binary op l r => op = .equals ∨ op = .notEquals → ∀ x y, l.evaluate v = .ok x →
      r.evaluate v = .ok y → ¬ apart (l.absent v) x (r.absent v) y
  | _ => True

/-- Everything fits that is reached. -/
def Settled (e : Expr) : Prop := ∀ s ∈ e.reached v, s.Fits exact apart v

variable {exact apart v} {e e' : Expr}

theorem Settled.mono (h : e.Settled exact apart v) (hsub : ∀ s ∈ e'.reached v, s ∈ e.reached v) :
    e'.Settled exact apart v := fun s hs => h s (hsub s hs)

theorem Settled.of_parts (parts : List Expr) (hparts : ∀ part ∈ parts, part.Settled exact apart v)
    (hreached : ∀ s ∈ e.reached v, s = e ∨ ∃ part ∈ parts, s ∈ part.reached v)
    (he : e.Fits exact apart v) : e.Settled exact apart v := by
  intro s hs
  rcases hreached s hs with rfl | ⟨part, hpart, hs⟩
  · exact he
  · exact hparts part hpart s hs

end Settled

end Expr

end ViewModel
