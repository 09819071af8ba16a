import ViewModel.Proofs.Number.Whole
import ViewModel.Proofs.Target.Names
import ViewModel.Proofs.Target.Simulation
import ViewModel.Target.ClassFile

/-!
Running what is printed for TypeScript, as JavaScript. Whatever is missing is `undefined`, which
strict equality keeps apart from `null`, and every number is a double.
-/

namespace ViewModel

/-- No rounding is needed to hold the value as a double, if it is a number. -/
def Value.IsExact : Value → Prop
  | int n => Double.Exact n
  | _ => True

inductive Js
  | undefined
  | null
  | bool (b : Bool)
  | number (x : Double)
  | text (s : String)
  | list (items : List Js)
  | object (members : List (String × Js))

namespace Js

mutual

/-- How JavaScript holds a value; whole numbers are rounded to doubles. -/
def ofValue (name : String → String) : Value → Js
  | .null => null
  | .bool b => bool b
  | .int n => number (.ofInt n)
  | .float x => number x
  | .text s => text s
  | .list items => list (ofItems name items)
  | .mapping es => object (ofEntries name es)
  | .record _ _ es => object (ofEntries name es)

def ofItems (name : String → String) : List Value → List Js
  | [] => []
  | v :: rest => ofValue name v :: ofItems name rest

def ofEntries (name : String → String) : List (String × Value) → List (String × Js)
  | [] => []
  | (k, v) :: rest => (name k, ofValue name v) :: ofEntries name rest

end

def literal : Scalar → Js
  | .null => null
  | .bool b => bool b
  | .int n => number (.ofInt n)
  | .float x => number x
  | .text s => text s

def isNullish : Js → Bool
  | undefined | null => true
  | _ => false

/-- Both missing values count as `null`. -/
def orNull : Js → Js
  | undefined => null
  | v => v

def truth : Js → Bool
  | undefined | null => false
  | bool b => b
  | number x => (Value.float x).truth && x != .nan
  | text s => s != ""
  | list _ | object _ => true

def property : Js → String → Js
  | object members, name => (Entries.find? members name).getD undefined
  | _, _ => undefined

/-- A safe access to nothing ends its path, any other access to nothing is an error. -/
def walk : Js → List (Bool × String) → Option Js
  | v, [] => some v
  | v, (safe, name) :: rest =>
      if v.isNullish then if safe then some undefined else none
      else walk (v.property name) rest

/-- Strict equality. The identity of lists and objects is not told. -/
def same? : Js → Js → Option Bool
  | undefined, undefined | null, null => some true
  | bool a, bool b => some (a == b)
  | number x, number y => some ((Value.float x).equal (.float y))
  | text s, text t => some (s == t)
  | list _, list _ | list _, object _ | object _, list _ | object _, object _ => none
  | _, _ => some false

/-- Loose equality, which is only told where one side is nothing. -/
def alike? (v w : Js) : Option Bool :=
  if v.isNullish || w.isNullish then some (v.isNullish && w.isNullish) else none

/-- Order is only told of numbers. -/
def ordered? (r : Value.Relation) : Js → Js → Option Bool
  | number x, number y => Value.compare? r (.float x) (.float y)
  | _, _ => none

def compare? (op : String) (v w : Js) : Option Bool :=
  match op with
  | "===" => same? v w
  | "!==" => (same? v w).map (!·)
  | "==" => alike? v w
  | "!=" => (alike? v w).map (!·)
  | ">" => ordered? .greater v w
  | ">=" => ordered? .greaterEqual v w
  | "<" => ordered? .less v w
  | "<=" => ordered? .lessEqual v w
  | _ => none

def machine : Machine Js where
  literal := literal
  ofBool := bool
  truth? v := some v.truth
  walk := walk
  conjunction := "&&"
  disjunction := "||"
  compare? := compare?
  conditionFirst := true

/-- What JavaScript has for a value, which is absent if `b`. -/
def seen (name : String → String) (b : Bool) (v : Value) : Js :=
  if b && v.isNull then undefined else ofValue name v

variable {m : Manifest} {c : String} {name : String → String} {v w x y : Value} {b p p' : Bool}
  {t u : TypeRef}

theorem ofEntries_eq (es : List (String × Value)) :
    ofEntries name es = es.map fun e => (name e.1, ofValue name e.2) := by
  induction es with
  | nil => rfl
  | cons e rest ih => simp [ofEntries, ih]

theorem ofValue_toValue (s : Scalar) : ofValue name s.toValue = literal s := by
  cases s <;> rfl

@[simp] theorem isNullish_ofValue (v : Value) : (ofValue name v).isNullish = v.isNull := by
  cases v <;> rfl

@[simp] theorem isNullish_seen (b : Bool) (v : Value) : (seen name b v).isNullish = v.isNull := by
  cases b <;> cases v <;> rfl

theorem orNull_seen (b : Bool) (v : Value) : (seen name b v).orNull = ofValue name v := by
  cases b <;> cases v <;> rfl

theorem property_ofValue {member : String} (h : v.KeepsApart name)
    (hheld : v.held? member = some w) :
    (ofValue name v).property (name member) = ofValue name w := by
  obtain ⟨es, hes, -⟩ := Option.bind_eq_some_iff.mp hheld
  have hfind := Value.find?_spelled (ofValue name) h hes hheld
  have hobject : ofValue name v = object (ofEntries name es) := by
    cases v <;> simp_all [Value.members?, ofValue]
  rw [hobject, property, ofEntries_eq, hfind, Option.getD_some]

/-- A path does not come upon a null that it does not expect. It ends in what JavaScript has for
its value, which is absent where the path is cut short. -/
theorem walk_steps {i : Nat} {path : List String} {nullSafe all : List Int}
    (hpath : PathType m i t path nullSafe u) (hv : HasType m v t) (hname : v.KeepsApart name)
    (hall : nullSafe ⊆ all) :
    walk (ofValue name v) (steps name all i path) =
      some (seen name (v.cutShort path) (v.memberPath path)) := by
  induction hpath generalizing v with
  | nil => rfl
  | strict hmember _ ih =>
    obtain ⟨w, hw, hwt⟩ := hv.member hmember
    rw [steps, walk, isNullish_ofValue, hv.isNull_eq_false, property_ofValue hname hw,
      Value.cutShort, hv.isNull_eq_false, Value.memberPath_cons, Value.member_of_held? hw]
    exact ih hwt (hname.held? hw) hall
  | safe hmember _ ih =>
    rcases hv.nullable_cases with rfl | hv
    · have hsafe := hall List.mem_cons_self
      rw [steps, Value.memberPath_null, walk]
      simp [ofValue, isNullish, seen, Value.cutShort, Value.isNull, hsafe]
    · obtain ⟨w, hw, hwt⟩ := hv.member hmember
      rw [steps, walk, isNullish_ofValue, hv.isNull_eq_false, property_ofValue hname hw,
        Value.cutShort, hv.isNull_eq_false, Value.memberPath_cons, Value.member_of_held? hw]
      exact ih hwt (hname.held? hw) fun j hj => hall (List.mem_cons_of_mem _ hj)

/-- A number that JavaScript holds exactly stands where it stood. -/
theorem exists_double (name : String → String) (hv : v.isNumeric = true) (hexact : v.IsExact) :
    ∃ d, ofValue name v = number d ∧ (Value.float d).position? = v.position? := by
  cases v with
  | int n => exact ⟨_, rfl, hexact⟩
  | float d => exact ⟨d, rfl, rfl⟩
  | _ => cases hv

theorem same?_of_numeric (name : String → String) (hx : x.isNumeric = true)
    (hy : y.isNumeric = true) (hxe : x.IsExact) (hye : y.IsExact) :
    same? (ofValue name x) (ofValue name y) = some (x.strictEqual y) := by
  obtain ⟨d, hd, hp⟩ := exists_double name hx hxe
  obtain ⟨d', hd', hp'⟩ := exists_double name hy hye
  rw [hd, hd', same?, Value.strictEqual_of_numeric hx hy, Value.equal_of_numeric hx hy,
    Value.equal_of_numeric rfl rfl, hp, hp']

/-- Strict equality of constants is that of the evaluator. -/
theorem same?_toValue (name : String → String) {s s' : Scalar} (hs : s.toValue.IsExact)
    (hs' : s'.toValue.IsExact) :
    same? (ofValue name s.toValue) (ofValue name s'.toValue) =
      some (s.toValue.strictEqual s'.toValue) := by
  cases s <;> cases s' <;> first
    | exact same?_of_numeric name rfl rfl hs hs'
    | exact congrArg some (Value.strictEqual_bool _ _).symm
    | simp [Scalar.toValue, ofValue, same?, Value.strictEqual, Value.equal, Value.position?,
        Value.isBool]

theorem ordered?_of_numeric (name : String → String) {r : Value.Relation}
    (hx : x.isNumeric = true) (hy : y.isNumeric = true) (hxe : x.IsExact) (hye : y.IsExact) :
    ordered? r (ofValue name x) (ofValue name y) = Value.compare? r x y := by
  obtain ⟨d, hd, hp⟩ := exists_double name hx hxe
  obtain ⟨d', hd', hp'⟩ := exists_double name hy hye
  rw [hd, hd', ordered?, Value.compare?_of_numeric hx hy, Value.compare?_of_numeric rfl rfl,
    hp, hp']

/-- Two nulls that JavaScript tells apart, since one of them is absent. -/
def Apart (b : Bool) (x : Value) (b' : Bool) (y : Value) : Prop :=
  x = .null ∧ y = .null ∧ b ≠ b'

theorem seen_of_not_null (hv : v.isNull = false) : seen name b v = ofValue name v := by
  simp [seen, hv]

theorem same?_seen (name : String → String) {s s' : Scalar} {b b' : Bool}
    (hs : s.toValue.IsExact) (hs' : s'.toValue.IsExact)
    (hapart : ¬ Apart b s.toValue b' s'.toValue) :
    same? (seen name b s.toValue) (seen name b' s'.toValue) =
      some (s.toValue.strictEqual s'.toValue) := by
  cases hnull : s.toValue.isNull with
  | false =>
    rw [seen_of_not_null hnull]
    cases hnull' : s'.toValue.isNull with
    | false => rw [seen_of_not_null hnull', same?_toValue name hs hs']
    | true =>
      rw [← same?_toValue name hs hs', (Value.isNull_iff _).mp hnull']
      cases s <;> first | (cases b' <;> rfl) | cases hnull
  | true =>
    cases hnull' : s'.toValue.isNull with
    | false =>
      rw [seen_of_not_null hnull', ← same?_toValue name hs hs', (Value.isNull_iff _).mp hnull]
      cases s' <;> first | (cases b <;> rfl) | cases hnull'
    | true =>
      rw [Value.isNull_iff] at hnull hnull'
      obtain rfl : b = b' := by
        by_contra hne
        exact hapart ⟨hnull, hnull', hne⟩
      rw [hnull, hnull']
      cases b <;> rfl

theorem same?_apart (name : String → String) {b b' : Bool} (h : Apart b x b' y) :
    same? (seen name b x) (seen name b' y) = some false := by
  obtain ⟨rfl, rfl, hne⟩ := h
  cases b <;> cases b' <;> first | rfl | exact absurd rfl hne

theorem alike?_null (v : Js) : alike? v null = some v.isNullish := by
  cases v <;> rfl

/-- What JavaScript does to the words of an expression is what the evaluator does, where whole
numbers are doubles and no equality tells nulls apart. -/
theorem simulates (hv : HasType m v (.reference c)) (hname : v.KeepsApart ClassFile.camel)
    (hexact : ∀ w ∈ v.inside, w.IsExact) :
    Simulates typescriptReading machine m c v (ofValue ClassFile.camel v)
      (fun b x y => y = seen ClassFile.camel b x ∧ x.IsExact) (fun s => s.toValue.IsExact)
      Apart where
  literal s hs := ⟨(ofValue_toValue s).symm, hs⟩
  ofBool p := ⟨rfl, trivial⟩
  bool_eq b p y h := by
    rw [h.1, seen_of_not_null rfl]
    rfl
  truth p := rfl
  member {path nullSafe t} hpath := by
    refine ⟨_, ?_, rfl, ?_⟩
    · rw [typescriptReading, Machine.run]
      exact walk_steps hpath hv hname (List.Subset.refl _)
    · rcases hv.memberPath_inside hpath with h | h
      · rw [h]
        trivial
      · exact hexact _ h
  conjunction := rfl
  disjunction := rfl
  apart_operators := by decide
  comparison op hop := by cases op <;> simp [BinaryOp.isLogical] at hop <;> decide
  nullTest_word negated := by cases negated <;> decide
  nullTest := by
    rintro b x _ negated ⟨rfl, -⟩
    have h := alike?_null (seen ClassFile.camel b x)
    rw [isNullish_seen] at h
    cases negated with
    | false =>
      show alike? _ null = _
      rw [h]
      cases x.isNull <;> rfl
    | true =>
      show (alike? _ null).map _ = _
      rw [h]
      cases x.isNull <;> rfl
  equality := by
    rintro op a b x _ y _ _ _ hop hcomparable hx hy ⟨rfl, hxe⟩ ⟨rfl, hye⟩ hapart
    obtain ⟨⟨s, rfl⟩, s', rfl⟩ := HasTyping.exists_scalar hcomparable hx hy
    have h := same?_seen ClassFile.camel hxe hye hapart
    rcases hop with rfl | rfl
    · exact ⟨_, rfl, h⟩
    · refine ⟨_, rfl, ?_⟩
      show (same? _ _).map _ = _
      rw [h]
      rfl
  ordering := by
    rintro op x _ y _ _ _ hop hx hy ⟨rfl, hxe⟩ ⟨rfl, hye⟩
    rw [seen_of_not_null (Value.isNull_of_isNumeric hx),
      seen_of_not_null (Value.isNull_of_isNumeric hy)]
    obtain ⟨q, hq⟩ := Value.compare?_isSome hx hy op.relation
    refine ⟨q, BinaryOp.compare_of_compare? hop hq, ?_⟩
    rw [← ordered?_of_numeric ClassFile.camel hx hy hxe hye] at hq
    cases op <;> simp [BinaryOp.isOrdering] at hop <;> exact hq
  conditional hs hp := Machine.run_conditional_first rfl hs hp

end Js

end ViewModel
