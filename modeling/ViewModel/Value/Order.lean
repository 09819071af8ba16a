import ViewModel.Value

/-!
Equality, order and truth of data. Numbers of different kinds compare exactly, texts by code
point, lists item by item; values of different kinds are unequal and have no order.
-/

namespace ViewModel.Value

mutual

/-- Equality of data: numbers by value, mappings without regard to order. -/
def equal : Value → Value → Bool
  | null, null => true
  | text s, text t => s == t
  | list xs, list ys => equalItems xs ys
  | mapping xs, mapping ys => xs.length == ys.length && equalEntries xs ys
  | record _ _ xs, record _ _ ys => xs.length == ys.length && equalEntries xs ys
  | v, w =>
      match v.position?, w.position? with
      | some p, some q => p == q
      | _, _ => false

def equalItems : List Value → List Value → Bool
  | [], [] => true
  | v :: vs, w :: ws => equal v w && equalItems vs ws
  | _, _ => false

def equalEntries : List (String × Value) → List (String × Value) → Bool
  | [], _ => true
  | (k, v) :: rest, ys =>
      (match Entries.find? ys k with
        | some w => equal v w
        | none => false) && equalEntries rest ys

end

/-- The four ways to compare by order. -/
inductive Relation
  | greater
  | greaterEqual
  | less
  | lessEqual
  deriving DecidableEq

namespace Relation

/-- The relation on an order given by its strict part. -/
def holds {α : Type} [BEq α] (lt : α → α → Bool) : Relation → α → α → Bool
  | greater, a, b => lt b a
  | greaterEqual, a, b => lt b a || a == b
  | less, a, b => lt a b
  | lessEqual, a, b => lt a b || a == b

end Relation

mutual

/-- Compares by order; `none` where the two have no order. -/
def compare? (r : Relation) : Value → Value → Option Bool
  | text s, text t => some (r.holds (fun a b => decide (a < b)) s t)
  | list xs, list ys => compareItems? r xs ys
  | v, w =>
      if v.isNumber && w.isNumber then
        match v.position?, w.position? with
        | some p, some q => some (r.holds Position.lt p q)
        | _, _ => some false
      else none

/-- The first pair of unequal items decides, otherwise the lengths do. -/
def compareItems? (r : Relation) : List Value → List Value → Option Bool
  | v :: vs, w :: ws => if equal v w then compareItems? r vs ws else compare? r v w
  | [], ws => some (r.holds (fun a b => decide (a < b)) 0 ws.length)
  | vs, [] => some (r.holds (fun a b => decide (a < b)) vs.length 0)

end

/-- Truth in a condition: nothing, zero and whatever is empty is false. -/
def truth : Value → Bool
  | null => false
  | bool b => b
  | int n => n != 0
  | float x => x.position? != some (.units 0)
  | text s => s != ""
  | list xs => !xs.isEmpty
  | mapping es => !es.isEmpty
  | record .. => true

end ViewModel.Value
