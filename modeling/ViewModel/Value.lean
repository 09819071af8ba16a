import ViewModel.Number.Text
import ViewModel.Text.Quoted

/-!
Data of any shape: what a state snapshot, a model instance or a decoded document holds.
-/

namespace ViewModel

/-- A mapping and a record both have named parts; a record's parts are attributes, read by name but
not listed, and one that starts with `_` is private. What a record shows by itself and inside another
value is its own. -/
inductive Value
  | null
  | bool (b : Bool)
  | int (n : Int)
  | float (x : Double)
  | text (s : String)
  | list (items : List Value)
  | mapping (entries : List (String × Value))
  | record (asText inspected : String) (attributes : List (String × Value))
  deriving Inhabited

/-- Entries in order of first insertion, each name once. -/
abbrev Entries (α : Type) := List (String × α)

namespace Entries

variable {α : Type}

def find? (entries : List (String × α)) (name : String) : Option α :=
  match entries with
  | [] => none
  | (k, v) :: rest => if k = name then some v else find? rest name

/-- Replaces the entry of that name, or adds one at the end. -/
def insert (entries : List (String × α)) (name : String) (value : α) : List (String × α) :=
  match entries with
  | [] => [(name, value)]
  | (k, v) :: rest => if k = name then (k, value) :: rest else (k, v) :: insert rest name value

/-- Entries in order; a later one of the same name replaces the value of an earlier one. -/
def ofList (entries : List (String × α)) : List (String × α) :=
  entries.foldl (fun acc e => insert acc e.1 e.2) []

@[simp] theorem find?_insert_self (entries : List (String × α)) (name : String) (value : α) :
    find? (insert entries name value) name = some value := by
  induction entries with
  | nil => simp [insert, find?]
  | cons e rest ih =>
    rw [insert]
    split
    · next h => simp [find?, h]
    · next h => simp [find?, h, ih]

theorem find?_insert_of_ne {entries : List (String × α)} {name other : String} (value : α)
    (h : other ≠ name) : find? (insert entries name value) other = find? entries other := by
  induction entries with
  | nil => simp [insert, find?, h.symm]
  | cons e rest ih =>
    rw [insert]
    split
    · next he => simp [find?, he, h.symm]
    · next he => simp [find?, ih]

theorem mem_of_find? {entries : List (String × α)} {name : String} {value : α}
    (h : find? entries name = some value) : (name, value) ∈ entries := by
  induction entries with
  | nil => cases h
  | cons e rest ih =>
    obtain ⟨k, v⟩ := e
    rw [find?] at h
    split at h
    next hk =>
      obtain rfl := Option.some.inj h
      exact hk ▸ List.mem_cons_self
    next => exact List.mem_cons_of_mem _ (ih h)

end Entries

namespace Value

def isNull : Value → Bool
  | null => true
  | _ => false

def isList : Value → Bool
  | list _ => true
  | _ => false

@[simp] theorem isNull_iff (v : Value) : v.isNull = true ↔ v = null := by
  cases v <;> simp [isNull]

theorem isNull_eq_false {v : Value} (h : v ≠ null) : v.isNull = false := by
  cases v <;> first | rfl | exact absurd rfl h

/-- The items of a list; anything else has none. -/
def items : Value → List Value
  | list xs => xs
  | _ => []

/-- Where a number stands; truth values count as one and zero, and NaN stands nowhere. -/
def position? : Value → Option Position
  | bool b => some (.ofInt (if b then 1 else 0))
  | int n => some (.ofInt n)
  | float x => x.position?
  | _ => none

def isNumber : Value → Bool
  | bool _ | int _ | float _ => true
  | _ => false

/-- The word for the kind of a value in messages. -/
def kindName : Value → String
  | null => "NoneType"
  | bool _ => "bool"
  | int _ => "int"
  | float _ => "float"
  | text _ => "str"
  | list _ => "list"
  | mapping _ => "dict"
  | record .. => "object"

mutual

/-- How a value inside another one shows in a message. -/
def inspect : Value → String
  | null => "None"
  | bool b => if b then "True" else "False"
  | int n => intText n
  | float x => x.text
  | text s => Text.quoted s
  | list xs => "[" ++ String.intercalate ", " (inspectItems xs) ++ "]"
  | mapping es => "\x7b" ++ String.intercalate ", " (inspectEntries es) ++ "\x7d"
  | record _ inspected _ => inspected

def inspectItems : List Value → List String
  | [] => []
  | v :: rest => inspect v :: inspectItems rest

def inspectEntries : List (String × Value) → List String
  | [] => []
  | (k, v) :: rest => (Text.quoted k ++ ": " ++ inspect v) :: inspectEntries rest

end

/-- How a value shows in a message: a text as it is, anything else as inside another value. -/
def shown : Value → String
  | text s => s
  | v => v.inspect

end Value

end ViewModel
