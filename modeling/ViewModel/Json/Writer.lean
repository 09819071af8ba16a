import ViewModel.Value

/-!
Writing JSON text: members sorted by name, all on one line, and only ASCII characters.
-/

namespace ViewModel.Json

/-- `\u` and the four digits of a UTF-16 unit. -/
def unitEscape (n : Nat) : List Char := '\\' :: 'u' :: Text.hex 4 n

def escape (c : Char) : List Char :=
  if c = '"' then ['\\', '"']
  else if c = '\\' then ['\\', '\\']
  else if c = '\n' then ['\\', 'n']
  else if c = '\r' then ['\\', 'r']
  else if c = '\t' then ['\\', 't']
  else if c = '\x0c' then ['\\', 'f']
  else if c = '\x08' then ['\\', 'b']
  else if ' ' ≤ c ∧ c ≤ '~' then [c]
  else if c.toNat < 0x10000 then unitEscape c.toNat
  else
    let n := c.toNat - 0x10000
    unitEscape (0xD800 + n / 0x400) ++ unitEscape (0xDC00 + n % 0x400)

/-- A text between double quotes. -/
def quote (s : String) : String :=
  String.ofList ('"' :: s.toList.flatMap escape ++ ['"'])

def floatText (x : Double) : String :=
  match x with
  | .nan => "NaN"
  | .infinite true => "-Infinity"
  | .infinite false => "Infinity"
  | .finite .. => x.text

/-- Entries by name, in code point order. -/
def sortEntries {α : Type} (es : List (String × α)) : List (String × α) :=
  es.mergeSort (fun a b => decide (a.1 ≤ b.1))

mutual

/-- A copy of the value whose mappings are sorted at every depth. -/
def sorted : Value → Value
  | .list xs => .list (sortedItems xs)
  | .mapping es => .mapping (sortEntries (sortedEntries es))
  | v => v

def sortedItems : List Value → List Value
  | [] => []
  | v :: rest => sorted v :: sortedItems rest

def sortedEntries : List (String × Value) → List (String × Value)
  | [] => []
  | (k, v) :: rest => (k, sorted v) :: sortedEntries rest

end

mutual

/-- The text of a value, members in their own order. -/
def write : Value → String
  | .null => "null"
  | .bool b => if b then "true" else "false"
  | .int n => intText n
  | .float x => floatText x
  | .text s => quote s
  | .list xs => "[" ++ String.intercalate ", " (writeItems xs) ++ "]"
  | .mapping es => "\x7b" ++ String.intercalate ", " (writeEntries es) ++ "\x7d"
  | .record .. => "null"

def writeItems : List Value → List String
  | [] => []
  | v :: rest => write v :: writeItems rest

def writeEntries : List (String × Value) → List String
  | [] => []
  | (k, v) :: rest => (quote k ++ ": " ++ write v) :: writeEntries rest

end

/-- The text of a value, members sorted by name. -/
def writeSorted (v : Value) : String := write (sorted v)

end ViewModel.Json
