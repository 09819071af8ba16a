import ViewModel.Value
import ViewModel.Yaml.Time

/-!
Data as YAML holds it: besides what other documents hold it has dates, and any scalar may be the
key of a mapping. `Datum.toValue` and `Datum.ofValue` lead to data whose keys are texts and back.
-/

namespace ViewModel.Yaml

inductive Datum
  | null
  | bool (b : Bool)
  | int (n : Int)
  | float (x : Double)
  | text (s : String)
  | time (t : Time)
  | list (items : List Datum)
  | mapping (entries : List (Datum × Datum))
  deriving Inhabited

namespace Datum

def isNull : Datum → Bool
  | null => true
  | _ => false

/-- A list and a mapping cannot be keys. -/
def isScalar : Datum → Bool
  | list _ | mapping _ => false
  | _ => true

def position? : Datum → Option Position
  | bool b => some (.ofInt (if b then 1 else 0))
  | int n => some (.ofInt n)
  | float x => x.position?
  | _ => none

/-- Whether two keys are one: numbers and truth values by what they are worth. -/
def sameKey : Datum → Datum → Bool
  | null, null => true
  | text a, text b => a = b
  | time a, time b => a.text = b.text
  | a, b =>
      match a.position?, b.position? with
      | some p, some q => p = q
      | _, _ => false

/-- Replaces the datum of that key, or adds an entry at the end. -/
def insert (entries : List (Datum × Datum)) (key value : Datum) : List (Datum × Datum) :=
  match entries with
  | [] => [(key, value)]
  | (k, v) :: rest => if k.sameKey key then (k, value) :: rest else (k, v) :: insert rest key value

/-- The mapping with these entries, of which a later one replaces an earlier one. -/
def ofEntries (entries : List (Datum × Datum)) : Datum :=
  mapping (entries.foldl (fun acc e => insert acc e.1 e.2) [])

mutual

/-- How a datum shows inside another one. -/
def inspect : Datum → String
  | null => "None"
  | bool b => if b then "True" else "False"
  | int n => intText n
  | float x => x.text
  | text s => Text.quoted s
  | time t => t.text
  | list xs => "[" ++ String.intercalate ", " (inspectItems xs) ++ "]"
  | mapping es => "\x7b" ++ String.intercalate ", " (inspectEntries es) ++ "\x7d"

def inspectItems : List Datum → List String
  | [] => []
  | d :: rest => inspect d :: inspectItems rest

def inspectEntries : List (Datum × Datum) → List String
  | [] => []
  | (k, d) :: rest => (inspect k ++ ": " ++ inspect d) :: inspectEntries rest

end

/-- How a datum shows in a message: a text as it is, anything else as inside another datum. -/
def shown : Datum → String
  | text s => s
  | d => d.inspect

mutual

/-- Dates become texts, and keys the texts that they show. -/
def toValue : Datum → Value
  | null => .null
  | bool b => .bool b
  | int n => .int n
  | float x => .float x
  | text s => .text s
  | time t => .text t.text
  | list xs => .list (toItems xs)
  | mapping es => .mapping (Entries.ofList (toEntries es))

def toItems : List Datum → List Value
  | [] => []
  | d :: rest => toValue d :: toItems rest

def toEntries : List (Datum × Datum) → List (String × Value)
  | [] => []
  | (k, d) :: rest => (shown k, toValue d) :: toEntries rest

end

mutual

def ofValue : Value → Datum
  | .null => null
  | .bool b => bool b
  | .int n => int n
  | .float x => float x
  | .text s => text s
  | .list xs => list (ofItems xs)
  | .mapping es => mapping (ofNamed es)
  | .record asText _ _ => text asText

def ofItems : List Value → List Datum
  | [] => []
  | v :: rest => ofValue v :: ofItems rest

def ofNamed : List (String × Value) → List (Datum × Datum)
  | [] => []
  | (k, v) :: rest => (text k, ofValue v) :: ofNamed rest

end

end Datum

end ViewModel.Yaml
