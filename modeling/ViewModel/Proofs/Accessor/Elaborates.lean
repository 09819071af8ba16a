import ViewModel.Accessor.Compile
import ViewModel.Proofs.Expr.WellTyped

/-!
Which expression tree of which type an accessor stands for in the classes of a manifest, one rule
for each form that accessors may have.
-/

namespace ViewModel

open Source (Term CompareOp Constant)

/-- The constant as expression trees have it, if they do. -/
def Source.Constant.scalar? : Constant → Option Scalar
  | .none => some .null
  | .bool b => some (.bool b)
  | .int n => some (.int n)
  | .float x => some (.float x)
  | .text s => some (.text s)
  | .imaginary | .bytes | .ellipsis => Option.none

def Scalar.negated? : Scalar → Option Scalar
  | int n => some (int (-n))
  | float x => some (float x.neg)
  | _ => none

namespace Accessor

/-- The right operand of the last link of a chain. -/
def lastOperand (second : Term) (more : List (CompareOp × Term)) : Term :=
  (more.getLast?.map Prod.snd).getD second

theorem lastOperand_append (y z : Term) (op : CompareOp) (more : List (CompareOp × Term)) :
    lastOperand y (more ++ [(op, z)]) = z := by
  simp [lastOperand]

theorem lastOperand_cons (y z : Term) (op : CompareOp) (more : List (CompareOp × Term)) :
    lastOperand y ((op, z) :: more) = lastOperand z more := by
  cases more <;> simp [lastOperand, List.getLast?_cons]

/-- One comparison of a chain: a test for null where an operand is `None`, and a comparison of
values otherwise. -/
inductive Link : Term → Typed → CompareOp → Term → Typed → Expr → Prop
  | nullLeft {x y : Term} {l r : Typed} {op : CompareOp} (hop : Site.testsNull op = true)
      (hx : x.isNone = true) :
      Link x l op y r (.nullCheck r.1 (op == .isNot || op == .notEq))
  | nullRight {x y : Term} {l r : Typed} {op : CompareOp} (hop : Site.testsNull op = true)
      (hy : y.isNone = true) :
      Link x l op y r (.nullCheck l.1 (op == .isNot || op == .notEq))
  | values {x y : Term} {l r : Typed} {op : CompareOp} {operator : BinaryOp} {e : Expr}
      (hop : Site.binaryOp? op = some operator) (h : Typed.compare operator l r = .ok e) :
      Link x l op y r e

/-- `Elaborates m c t e τ`: in an accessor of the class `c` the term `t` stands for the expression
`e`, which has the type `τ`. -/
inductive Elaborates (m : Manifest) (c : String) : Term → Expr → Typing → Prop
  | constant {k : Constant} {s : Scalar} (h : k.scalar? = some s) :
      Elaborates m c (.constant k) (.literal s) s.typing
  | negative {k : Constant} {s n : Scalar} (h : k.scalar? = some s) (hn : s.negated? = some n) :
      Elaborates m c (.unary .minus (.constant k)) (.literal n) n.typing
  | member {receiver : Term} {name : String} {path : List String} {nullSafe : List Int}
      {t : TypeRef} (hpath : Site.path? receiver = some path)
      (h : PathType m 0 (.reference c) (path ++ [name]) nullSafe t) :
      Elaborates m c (.access receiver name) (.member (path ++ [name]) nullSafe)
        (.known (t.alongPath nullSafe))
  | logical {conjunction : Bool} {left right : Term} {l r l' r' : Expr} {a b : Typing}
      (hleft : Elaborates m c left l a) (hl : Typed.condition (l, a) = .ok l')
      (hright : Elaborates m c right r b) (hr : Typed.condition (r, b) = .ok r') :
      Elaborates m c (.logical conjunction left right)
        (.binary (if conjunction then .and else .or) l' r') (.known .boolean)
  | not {operand : Term} {e e' : Expr} {a : Typing} (h : Elaborates m c operand e a)
      (he : Typed.condition (e, a) = .ok e') :
      Elaborates m c (.unary .not operand) (.not e') (.known .boolean)
  | pair {first second : Term} {op : CompareOp} {l r e : Expr} {a b : Typing}
      (hleft : Elaborates m c first l a) (hright : Elaborates m c second r b)
      (hlink : Link first (l, a) op second (r, b) e) :
      Elaborates m c (.compare first op second []) e (.known .boolean)
  | chain {first second last : Term} {op op' : CompareOp} {more : List (CompareOp × Term)}
      {sofar l r e : Expr} {a b : Typing}
      (hsofar : Elaborates m c (.compare first op second more) sofar (.known .boolean))
      (hleft : Elaborates m c (lastOperand second more) l a) (hright : Elaborates m c last r b)
      (hlink : Link (lastOperand second more) (l, a) op' last (r, b) e) :
      Elaborates m c (.compare first op second (more ++ [(op', last)])) (.binary .and sofar e)
        (.known .boolean)
  | conditional {test whenTrue whenFalse : Term} {e e' l r : Expr} {s a b t : Typing}
      (htest : Elaborates m c test e s) (hcondition : Typed.condition (e, s) = .ok e')
      (htrue : Elaborates m c whenTrue l a) (hfalse : Elaborates m c whenFalse r b)
      (hagree : Typed.agree a b = .ok t) :
      Elaborates m c (.conditional test whenTrue whenFalse) (.ternary e' l r) t

theorem isNone_eq_true {t : Term} (h : t.isNone = true) : t = .constant .none := by
  unfold Term.isNone at h
  split at h
  · rfl
  · cases h

theorem isLogical_of_binaryOp? {op : CompareOp} {operator : BinaryOp}
    (h : Site.binaryOp? op = some operator) : operator.isLogical = false := by
  cases op <;> simp [Site.binaryOp?] at h <;> subst h <;> rfl

namespace Elaborates

variable {m m' : Manifest} {c : String} {t : Term} {e : Expr} {τ : Typing}

/-- What an accessor stands for is well typed. -/
theorem wellTyped (h : Elaborates m c t e τ) : WellTyped m c e τ := by
  have of_link {x y : Term} {l r e : Expr} {a b : Typing} {op : CompareOp}
      (hlink : Link x (l, a) op y (r, b) e) (hl : WellTyped m c l a) (hr : WellTyped m c r b) :
      WellTyped m c e (.known .boolean) := by
    cases hlink with
    | nullLeft => exact .nullCheck _ hr
    | nullRight => exact .nullCheck _ hl
    | values hop h => exact .of_compare (isLogical_of_binaryOp? hop) hl hr h
  induction h with
  | constant => exact .literal _
  | negative => exact .literal _
  | member _ hpath => exact .member hpath
  | @logical conjunction _ _ _ _ _ _ _ _ _ hl _ hr ihl ihr =>
    have hop : (if conjunction then BinaryOp.and else .or).isLogical = true := by
      cases conjunction <;> rfl
    exact .logical hop (ihl.of_condition hl) (ihr.of_condition hr)
  | not _ he ih => exact .not (ih.of_condition he)
  | pair _ _ hlink ihl ihr => exact of_link hlink ihl ihr
  | chain _ _ _ hlink ihsofar ihl ihr => exact .logical rfl ihsofar (of_link hlink ihl ihr)
  | conditional _ hcondition _ _ hagree ihtest ihl ihr =>
    exact .ternary (ihtest.of_condition hcondition) ihl ihr hagree

/-- More members change nothing. -/
theorem mono (hmember : ∀ c name t, m.HasMember c name t → m'.HasMember c name t)
    (h : Elaborates m c t e τ) : Elaborates m' c t e τ := by
  induction h with
  | constant h => exact .constant h
  | negative h hn => exact .negative h hn
  | member hpath h => exact .member hpath (h.mono hmember)
  | logical _ hl _ hr ihl ihr => exact .logical ihl hl ihr hr
  | not _ he ih => exact .not ih he
  | pair _ _ hlink ihl ihr => exact .pair ihl ihr hlink
  | chain _ _ _ hlink ihsofar ihl ihr => exact .chain ihsofar ihl ihr hlink
  | conditional _ hcondition _ _ hagree ihtest ihl ihr =>
    exact .conditional ihtest hcondition ihl ihr hagree

end Elaborates

end Accessor

end ViewModel
