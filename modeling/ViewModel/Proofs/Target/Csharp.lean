import ViewModel.Proofs.Target.Names
import ViewModel.Proofs.Target.Simulation
import ViewModel.Target.ClassFile

/-!
Running what is printed for C#. A plain access to null is an error, a null-safe one makes the rest
of its path null; a comparison by order with null is false and null equals null. Only truth values
are conditions.
-/

namespace ViewModel

namespace Value

mutual

/-- The value with the members of its objects under the names that a target spells. -/
def renamed (name : String → String) : Value → Value
  | list items => list (renamedItems name items)
  | mapping es => mapping (renamedEntries name es)
  | record asText inspected es => record asText inspected (renamedEntries name es)
  | v => v

def renamedItems (name : String → String) : List Value → List Value
  | [] => []
  | v :: rest => v.renamed name :: renamedItems name rest

def renamedEntries (name : String → String) : List (String × Value) → List (String × Value)
  | [] => []
  | (k, v) :: rest => (name k, v.renamed name) :: renamedEntries name rest

end

variable {name : String → String} {v w : Value} {member : String}

theorem renamedEntries_eq (es : List (String × Value)) :
    renamedEntries name es = es.map fun e => (name e.1, e.2.renamed name) := by
  induction es with
  | nil => rfl
  | cons e rest ih => simp [renamedEntries, ih]

@[simp] theorem isNull_renamed (v : Value) : (v.renamed name).isNull = v.isNull := by
  cases v <;> rfl

theorem held?_renamed (h : KeepsApart name v) (hheld : v.held? member = some w) :
    (v.renamed name).held? (name member) = some (w.renamed name) := by
  obtain ⟨es, hes, -⟩ := Option.bind_eq_some_iff.mp hheld
  have hfind := find?_spelled (renamed name) h hes hheld
  have hmembers : (v.renamed name).members? = some (renamedEntries name es) := by
    cases v <;> simp_all [members?, renamed]
  rw [held?, hmembers, renamedEntries_eq]
  exact hfind

end Value

namespace Csharp

def walk : Value → List (Bool × String) → Option Value
  | v, [] => some v
  | v, (safe, name) :: rest =>
      if v.isNull then if safe then some .null else none
      else (v.held? name).bind fun w => walk w rest

/-- Truth values and other values have no equality with each other. -/
def equal? (v w : Value) : Option Bool :=
  if v.isNull || w.isNull then some (v.isNull && w.isNull)
  else if v.isBool == w.isBool then some (v.equal w) else none

/-- Only numbers have an order, and null is in no order with anything. -/
def ordered? (r : Value.Relation) (v w : Value) : Option Bool :=
  if v.isNull || w.isNull then some false
  else if v.isNumeric && w.isNumeric then Value.compare? r v w else none

def compare? (op : String) (v w : Value) : Option Bool :=
  match op with
  | "==" => equal? v w
  | "!=" => (equal? v w).map (!·)
  | ">" => ordered? .greater v w
  | ">=" => ordered? .greaterEqual v w
  | "<" => ordered? .less v w
  | "<=" => ordered? .lessEqual v w
  | _ => none

def truth? : Value → Option Bool
  | .bool b => some b
  | _ => none

def machine : Machine Value where
  literal := Scalar.toValue
  ofBool := .bool
  truth? := truth?
  walk := walk
  conjunction := "&&"
  disjunction := "||"
  compare? := compare?
  conditionFirst := true

variable {m : Manifest} {c : String} {name : String → String} {v x y : Value} {t u : TypeRef}

/-- A path does not come upon a null that it does not expect. -/
theorem walk_steps {i : Nat} {path : List String} {nullSafe all : List Int}
    (hpath : PathType m i t path nullSafe u) (hv : HasType m v t) (hname : v.KeepsApart name)
    (hall : nullSafe ⊆ all) :
    walk (v.renamed name) (steps name all i path) =
      some ((v.memberPath path).renamed name) := by
  induction hpath generalizing v with
  | nil => rfl
  | strict hmember _ ih =>
    obtain ⟨w, hw, hwt⟩ := hv.member hmember
    rw [steps, walk, Value.isNull_renamed, hv.isNull_eq_false, Value.held?_renamed hname hw,
      Value.memberPath_cons, Value.member_of_held? hw]
    exact ih hwt (hname.held? hw) hall
  | safe hmember _ ih =>
    rcases hv.nullable_cases with rfl | hv
    · have hsafe := hall List.mem_cons_self
      rw [steps, Value.memberPath_null, walk]
      simp [Value.renamed, Value.isNull, hsafe]
    · obtain ⟨w, hw, hwt⟩ := hv.member hmember
      rw [steps, walk, Value.isNull_renamed, hv.isNull_eq_false, Value.held?_renamed hname hw,
        Value.memberPath_cons, Value.member_of_held? hw]
      exact ih hwt (hname.held? hw) fun j hj => hall (List.mem_cons_of_mem _ hj)

theorem renamed_of_primitive {a : Typing} {k : Primitive} (hv : HasTyping m v a)
    (ha : a.stripNull = .known (.primitive k)) : v.renamed name = v := by
  rcases hv.primitive_cases ha with rfl | hv
  · rfl
  · cases hv <;> rfl

theorem equal?_null (v : Value) : equal? v .null = some v.isNull := by
  have hnull : Value.null.isNull = true := rfl
  rw [equal?, hnull]
  cases v.isNull <;> rfl

theorem equal?_of_comparable {a b : Typing} (hcomparable : Typed.checkEquality a b = .ok ())
    (hx : HasTyping m x a) (hy : HasTyping m y b) : equal? x y = some (x.strictEqual y) := by
  rw [equal?, Value.strictEqual_of_comparable hcomparable hx hy]
  cases hxn : x.isNull with
  | true =>
    obtain rfl := (Value.isNull_iff x).mp hxn
    rw [Value.equal_null_left]
    cases y.isNull <;> rfl
  | false =>
    cases hyn : y.isNull with
    | true =>
      obtain rfl := (Value.isNull_iff y).mp hyn
      rw [Value.equal_null_right, hxn]
      rfl
    | false =>
      rcases Value.isBool_eq_of_comparable hcomparable hx hy with rfl | rfl | hbool
      · cases hxn
      · cases hyn
      · simp [hbool]

theorem ordered?_of_numeric {r : Value.Relation} (hx : x.isNumeric = true)
    (hy : y.isNumeric = true) : ordered? r x y = Value.compare? r x y := by
  simp [ordered?, Value.isNull_of_isNumeric hx, Value.isNull_of_isNumeric hy, hx, hy]

theorem renamed_of_numeric (hx : x.isNumeric = true) : x.renamed name = x := by
  cases x <;> first | rfl | cases hx

/-- What C# does to the words of an expression is what the evaluator does. -/
theorem simulates (hv : HasType m v (.reference c)) (hname : v.KeepsApart ClassFile.pascal) :
    Simulates csharpReading machine m c v (v.renamed ClassFile.pascal)
      (fun _ x y => y = x.renamed ClassFile.pascal) (fun _ => True)
      (fun _ _ _ _ => False) where
  literal s _ := by cases s <;> rfl
  ofBool p := rfl
  bool_eq b p y h := h
  truth p := rfl
  member hpath := ⟨_, by
    rw [csharpReading, Machine.run]
    exact walk_steps hpath hv hname (List.Subset.refl _), rfl⟩
  conjunction := rfl
  disjunction := rfl
  apart_operators := by decide
  comparison op hop := by cases op <;> simp [BinaryOp.isLogical] at hop <;> decide
  nullTest_word negated := by cases negated <;> decide
  nullTest := by
    rintro b x _ negated rfl
    have h := equal?_null (x.renamed ClassFile.pascal)
    rw [Value.isNull_renamed] at h
    cases negated with
    | false =>
      show equal? _ _ = _
      rw [show machine.literal .null = .null from rfl, h]
      cases x.isNull <;> rfl
    | true =>
      show (equal? _ _).map _ = _
      rw [show machine.literal .null = .null from rfl, h]
      cases x.isNull <;> rfl
  equality := by
    rintro op a b x _ y _ _ _ hop hcomparable hx hy rfl rfl -
    obtain ⟨j, k, hj, hk, -⟩ := Typed.checkEquality_eq_ok hcomparable
    rw [renamed_of_primitive hx hj, renamed_of_primitive hy hk]
    have h := equal?_of_comparable hcomparable hx hy
    rcases hop with rfl | rfl
    · exact ⟨_, rfl, h⟩
    · refine ⟨_, rfl, ?_⟩
      show (equal? _ _).map _ = _
      rw [h]
      rfl
  ordering := by
    rintro op x _ y _ _ _ hop hx hy rfl rfl
    rw [renamed_of_numeric hx, renamed_of_numeric hy]
    obtain ⟨q, hq⟩ := Value.compare?_isSome hx hy op.relation
    refine ⟨q, BinaryOp.compare_of_compare? hop hq, ?_⟩
    rw [← ordered?_of_numeric hx hy] at hq
    cases op <;> simp [BinaryOp.isOrdering] at hop <;> exact hq
  conditional hs hp := Machine.run_conditional_first rfl hs hp

end Csharp

end ViewModel
