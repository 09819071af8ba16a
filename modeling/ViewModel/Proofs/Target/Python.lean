import ViewModel.Proofs.Target.Simulation

/-!
Running what is printed for Python. Any access to null and any comparison by order with null is an
error, so that a path has to be tested before it is read.
-/

namespace ViewModel

namespace Python

/-- Python has no accesses that are safe. -/
def walk : Value → List (Bool × String) → Option Value
  | v, [] => some v
  | _, (true, _) :: _ => none
  | v, (false, name) :: rest => (v.held? name).bind fun w => walk w rest

/-- Identity is only told where one side is null. -/
def same? (v w : Value) : Option Bool :=
  if v.isNull || w.isNull then some (v.isNull && w.isNull) else none

def compare? (op : String) (v w : Value) : Option Bool :=
  match op with
  | "==" => some (v.equal w)
  | "!=" => some !(v.equal w)
  | "is" => same? v w
  | "is not" => (same? v w).map (!·)
  | ">" => Value.compare? .greater v w
  | ">=" => Value.compare? .greaterEqual v w
  | "<" => Value.compare? .less v w
  | "<=" => Value.compare? .lessEqual v w
  | _ => none

/-- Every value may be a condition. -/
def machine : Machine Value where
  literal := Scalar.toValue
  ofBool := .bool
  truth? v := some v.truth
  walk := walk
  conjunction := "and"
  disjunction := "or"
  compare? := compare?
  conditionFirst := false

variable {m : Manifest} {c : String} {v x y : Value} {t u : TypeRef}

theorem same?_null (v : Value) : same? v .null = some v.isNull := by
  have hnull : Value.null.isNull = true := rfl
  rw [same?, hnull]
  cases v.isNull <;> rfl

/-- Reads a path of which no receiver is null. -/
def plain (v : Value) (path : List String) : Option Value :=
  walk v (path.map fun name => (false, name))

theorem run_plainPath (path : List String) :
    machine.run v (plainPath path) = plain v path := by
  rw [plainPath, Machine.run]
  rfl

theorem plain_append {name : String} {path : List String} (h : plain v path = some x)
    (hheld : x.held? name = some y) : plain v (path ++ [name]) = some y := by
  induction path generalizing v with
  | nil =>
    obtain rfl := Option.some.inj h
    simp [plain, walk, hheld]
  | cons segment rest ih =>
    obtain ⟨w, hw, h⟩ := Option.bind_eq_some_iff.mp h
    have hrest := ih h
    simp only [plain, List.cons_append, List.map_cons, walk, hw, Option.bind_some]
    exact hrest

/-- Whether none of some receivers is null, each one only asked for where those before it are not
null. -/
def allPresent (v : Value) : List (List String) → Option Bool
  | [] => some true
  | receiver :: rest => do
      if (← plain v receiver).isNull then return false else allPresent v rest

theorem run_guardPhrase {receiver : List String} (h : plain v receiver = some x) :
    machine.run v (guardPhrase receiver) = some (.bool !x.isNull) := by
  have hnull : machine.run v (.literal .null) = some .null := by
    rw [Machine.run]
    rfl
  refine Machine.run_comparison (by decide) ((run_plainPath receiver).trans h) hnull ?_
  show (same? x .null).map _ = _
  rw [same?_null]
  rfl

/-- Joined tests stop at the first receiver that is null. -/
theorem run_guardsPhrase {first : List String} {more : List (List String)} {p : Bool}
    (h : allPresent v (first :: more) = some p) :
    machine.run v (guardsPhrase first more) = some (.bool p) := by
  have stays_false (more : List (List String)) {s : Phrase}
      (hs : machine.run v s = some (.bool false)) :
      machine.run v (more.foldl
        (fun sofar receiver => .joined "and" sofar (guardPhrase receiver)) s) =
          some (.bool false) := by
    induction more generalizing s with
    | nil => exact hs
    | cons receiver more ih => exact ih (Machine.run_conjunction_false (M := machine) hs rfl)
  have continues {more : List (List String)} {s : Phrase}
      (hs : machine.run v s = some (.bool true)) (hmore : allPresent v more = some p) :
      machine.run v (more.foldl
        (fun sofar receiver => .joined "and" sofar (guardPhrase receiver)) s) =
          some (.bool p) := by
    induction more generalizing s with
    | nil =>
      obtain rfl := Option.some.inj hmore
      exact hs
    | cons receiver more ih =>
      obtain ⟨x, hx, hmore⟩ := Option.bind_eq_some_iff.mp hmore
      have hjoined := Machine.run_conjunction_true (M := machine) hs rfl (run_guardPhrase hx) rfl
      cases hnull : x.isNull <;>
        simp only [hnull, Bool.false_eq_true, if_false, if_true] at hmore hjoined
      · exact ih hjoined hmore
      · obtain rfl := Option.some.inj hmore
        exact stays_false more hjoined
  obtain ⟨x, hx, hmore⟩ := Option.bind_eq_some_iff.mp h
  have hfirst := run_guardPhrase hx
  cases hnull : x.isNull <;>
    simp only [hnull, Bool.false_eq_true, if_false, if_true] at hmore hfirst
  · exact continues hfirst hmore
  · obtain rfl := Option.some.inj hmore
    exact stays_false more hfirst

/-- The tests before a path ask for its receivers that may be null, and a path that has passed them
does not come upon a null. -/
theorem allPresent_guardedPrefixes {i : Nat} {rest sofar : List String} {nullSafe all : List Int}
    (hpath : PathType m i t rest nullSafe u) (hx : HasType m x t) (hsofar : plain v sofar = some x)
    (hall : nullSafe ⊆ all) :
    ∃ p, allPresent v (Dialect.guardedPrefixes all sofar i rest) = some p ∧
      if p then plain v (sofar ++ rest) = some (x.memberPath rest)
      else x.memberPath rest = .null := by
  -- A receiver that is not null passes its test, if it is tested at all.
  have passes {i : Nat} {x : Value} {sofar rest : List String} {name : String}
      (hnull : x.isNull = false)
      (hsofar : plain v sofar = some x) :
      allPresent v (Dialect.guardedPrefixes all sofar i (name :: rest)) =
        allPresent v (Dialect.guardedPrefixes all (sofar ++ [name]) (i + 1) rest) := by
    rw [Dialect.guardedPrefixes]
    split
    · simp [allPresent, hsofar, hnull]
    · rfl
  induction hpath generalizing x sofar with
  | nil => exact ⟨true, rfl, by simpa using hsofar⟩
  | @strict _ _ name rest _ _ _ hmember _ ih =>
    obtain ⟨w, hw, hwt⟩ := hx.member hmember
    rw [passes hx.isNull_eq_false hsofar, Value.memberPath_cons, Value.member_of_held? hw,
      show sofar ++ name :: rest = sofar ++ [name] ++ rest by simp]
    exact ih hwt (plain_append hsofar hw) hall
  | @safe _ _ name rest _ _ _ hmember _ ih =>
    rcases hx.nullable_cases with rfl | hx
    · have hmem := hall List.mem_cons_self
      refine ⟨false, ?_, by simp⟩
      simp [Dialect.guardedPrefixes, hmem, allPresent, hsofar, Value.isNull]
    · obtain ⟨w, hw, hwt⟩ := hx.member hmember
      rw [passes hx.isNull_eq_false hsofar, Value.memberPath_cons, Value.member_of_held? hw,
        show sofar ++ name :: rest = sofar ++ [name] ++ rest by simp]
      exact ih hwt (plain_append hsofar hw) fun j hj => hall (List.mem_cons_of_mem _ hj)

theorem run_guardedPath {path : List String} {nullSafe : List Int}
    (hpath : PathType m 0 (.reference c) path nullSafe t) (hv : HasType m v (.reference c)) :
    machine.run v (guardedPath path nullSafe) = some (v.memberPath path) := by
  have hsofar : plain v [] = some v := rfl
  obtain ⟨p, hp, hvalue⟩ := allPresent_guardedPrefixes hpath hv hsofar (List.Subset.refl nullSafe)
  unfold guardedPath
  cases hguards : Dialect.guardedPrefixes nullSafe [] 0 path with
  | nil =>
    rw [hguards] at hp
    obtain rfl := Option.some.inj hp
    exact (run_plainPath path).trans hvalue
  | cons first more =>
    rw [hguards] at hp
    rw [Machine.run_conditional_second rfl (run_guardsPhrase hp) rfl]
    cases p with
    | false =>
      rw [show v.memberPath path = .null from hvalue]
      simp [Value.truth, Machine.run, machine, Scalar.toValue]
    | true => exact (run_plainPath path).trans hvalue

/-- What Python does to the words of an expression is what the evaluator does. -/
theorem simulates (hv : HasType m v (.reference c)) :
    Simulates pythonReading machine m c v v (fun _ x y => y = x) (fun _ => True)
      (fun _ _ _ _ => False) where
  literal s _ := rfl
  ofBool p := rfl
  bool_eq b p y h := h
  truth p := rfl
  member hpath := ⟨_, run_guardedPath hpath hv, rfl⟩
  conjunction := rfl
  disjunction := rfl
  apart_operators := by decide
  comparison op hop := by cases op <;> simp [BinaryOp.isLogical] at hop <;> decide
  nullTest_word negated := by cases negated <;> decide
  nullTest := by
    rintro b x _ negated rfl
    cases negated with
    | false =>
      show same? _ .null = _
      rw [same?_null]
      cases Value.isNull _ <;> rfl
    | true =>
      show (same? _ .null).map _ = _
      rw [same?_null]
      cases Value.isNull _ <;> rfl
  equality := by
    rintro op a b x _ y _ _ _ hop hcomparable hx hy rfl rfl -
    have hstrict := Value.strictEqual_of_comparable hcomparable hx hy
    rcases hop with rfl | rfl
    · exact ⟨_, rfl, congrArg some hstrict.symm⟩
    · exact ⟨_, rfl, congrArg (fun p => some !p) hstrict.symm⟩
  ordering := by
    rintro op x _ y _ _ _ hop hx hy rfl rfl
    obtain ⟨q, hq⟩ := Value.compare?_isSome hx hy op.relation
    refine ⟨q, BinaryOp.compare_of_compare? hop hq, ?_⟩
    cases op <;> simp [BinaryOp.isOrdering] at hop <;> exact hq
  conditional hs hp := Machine.run_conditional_second rfl hs hp

end Python

end ViewModel
