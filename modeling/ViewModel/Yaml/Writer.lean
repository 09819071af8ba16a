import ViewModel.Json.Writer
import ViewModel.Yaml.Scalar
import ViewModel.Yaml.Token

/-!
Writing YAML text: collections as blocks, mappings sorted by key, ASCII only. Lines break between
words after column 80. A text goes without quotes where it would be read as the same text, then in
single quotes, and in double quotes where it needs escapes.
-/

namespace ViewModel.Yaml

namespace Writer

/-- Lines are broken after this column. -/
def width : Nat := 80

def margin (n : Nat) : List Char := List.replicate n ' '

def newLine (indent : Nat) : List Char := '\n' :: margin indent

inductive Style
  | plain
  | single
  | double
  deriving DecidableEq

/-- Whether a character shows as itself, outside of double quotes too. -/
def isVisible (c : Char) : Bool := c = '\n' || (' ' ≤ c && c ≤ '~')

/-- Indicators inside a plain scalar: a colon before a blank, a number sign after one. -/
def hasIndicator (previous : Char) : List Char → Bool
  | [] => false
  | c :: rest =>
      (c = ':' && Cursor.endsToken rest) || (c = '#' && Cursor.endsToken [previous]) ||
        hasIndicator c rest

/-- Whether a text would not be read as a plain scalar from its start. -/
def startsLikeIndicator (cs : List Char) : Bool :=
  match cs with
  | [] => false
  | c :: rest =>
      "---".toList.isPrefixOf cs || "...".toList.isPrefixOf cs ||
        c ∈ "#,[]\x7b\x7d&*!|>'\"%@\x60".toList ||
        (c ∈ "?:-".toList && Cursor.endsToken rest) || hasIndicator c rest

/-- Whether a line end stands next to a space. -/
def spacesAtBreak : List Char → Bool
  | a :: b :: rest =>
      (a = ' ' && b = '\n') || (a = '\n' && b = ' ') || spacesAtBreak (b :: rest)
  | _ => false

def isPlain (cs : List Char) : Bool :=
  Scalar.isText (String.ofList cs) && !startsLikeIndicator cs && '\n' ∉ cs &&
    cs.head? ≠ some ' ' && cs.getLast? ≠ some ' '

def style (cs : List Char) : Style :=
  if !cs.all isVisible || spacesAtBreak cs then .double
  else if isPlain cs then .plain
  else .single

/-- A scalar without quotes from a column on; `previous` is the character before. -/
def plainText (split : Bool) (indent column : Nat) (previous : Char) : List Char → List Char
  | [] => []
  | c :: rest =>
      if split && c = ' ' && previous ≠ ' ' && rest.head? ≠ some ' ' && width < column then
        newLine indent ++ plainText split indent indent c rest
      else c :: plainText split indent (column + 1) c rest

/-- The text between single quotes. A quote is written twice, a run of line ends with one more,
and a single space between words may become a line end. -/
def singleText (split : Bool) (indent column : Nat) (previous : Option Char) :
    List Char → List Char
  | [] => if previous = some '\n' then newLine indent else []
  | c :: rest =>
      if c = '\n' then '\n' :: singleText split indent 0 (some c) rest
      else
        let (before, column) :=
          if previous = some '\n' then (newLine indent, indent) else ([], column)
        if c = '\'' then before ++ '\'' :: '\'' :: singleText split indent (column + 2) (some c) rest
        else if split && c = ' ' && previous.any (· ≠ ' ') && !rest.isEmpty &&
            rest.head? ≠ some ' ' && width < column then
          before ++ newLine indent ++ singleText split indent indent (some c) rest
        else before ++ c :: singleText split indent (column + 1) (some c) rest

def escapeLetter? : Char → Option Char
  | '\x00' => some '0'
  | '\x07' => some 'a'
  | '\x08' => some 'b'
  | '\t' => some 't'
  | '\n' => some 'n'
  | '\x0b' => some 'v'
  | '\x0c' => some 'f'
  | '\r' => some 'r'
  | '\x1b' => some 'e'
  | '"' => some '"'
  | '\\' => some '\\'
  | '\u0085' => some 'N'
  | '\u00a0' => some '_'
  | '\u2028' => some 'L'
  | '\u2029' => some 'P'
  | _ => none

def upperHex (digits n : Nat) : List Char := (Text.hex digits n).map Char.toUpper

/-- The escape of a character that cannot stand as itself between double quotes. -/
def escape? (c : Char) : Option (List Char) :=
  match escapeLetter? c with
  | some e => some ['\\', e]
  | none =>
      if ' ' ≤ c ∧ c ≤ '~' then none
      else if c.toNat < 0x100 then some ('\\' :: 'x' :: upperHex 2 c.toNat)
      else if c.toNat < 0x10000 then some ('\\' :: 'u' :: upperHex 4 c.toNat)
      else some ('\\' :: 'U' :: upperHex 8 c.toNat)

/-- A backslash ends a broken line, and another one stands before a space that starts the next. -/
def brokenBefore (indent : Nat) (next : Option Char) : List Char :=
  '\\' :: newLine indent ++ (if next = some ' ' then ['\\'] else [])

def columnAfter (indent : Nat) (next : Option Char) : Nat :=
  if next = some ' ' then indent + 1 else indent

/-- The text between double quotes. A line may break before a space and on both sides of an
escape, but not before the first character or the last one. -/
def doubleText (split : Bool) (indent column : Nat) (first afterEscape : Bool) :
    List Char → List Char
  | [] => []
  | c :: rest =>
      let inside := split && !first && !rest.isEmpty
      match escape? c with
      | some e =>
          let column := column + e.length
          if inside && width + 1 < column then
            e ++ brokenBefore indent rest.head? ++
              doubleText split indent (columnAfter indent rest.head?) false true rest
          else e ++ doubleText split indent column false true rest
      | none =>
          if inside && (c = ' ' || afterEscape) && width < column then
            brokenBefore indent (some c) ++ c ::
              doubleText split indent (columnAfter indent (some c) + 1) false false rest
          else c :: doubleText split indent (column + 1) false false rest

/-- A text from a column on; its further lines are indented by `indent`. -/
def scalar (split : Bool) (indent column : Nat) (cs : List Char) : List Char :=
  match style cs with
  | .plain => plainText split indent column ' ' cs
  | .single => '\'' :: singleText split indent (column + 1) none cs ++ ['\'']
  | .double => '"' :: doubleText split indent (column + 1) true false cs ++ ['"']

def floatText (x : Double) : String :=
  match x with
  | .nan => ".nan"
  | .infinite true => "-.inf"
  | .infinite false => ".inf"
  | .finite .. =>
      let cs := x.text.toList
      let mantissa := cs.takeWhile (· ≠ 'e')
      let point := if '.' ∈ mantissa || mantissa.length = cs.length then [] else ['.', '0']
      String.ofList (mantissa ++ point ++ cs.drop mantissa.length)

/-- The text of a value that takes one line, or of a text; `none` for a collection with parts. -/
def atom? (indent column : Nat) : Value → Option (List Char)
  | .null => some "null".toList
  | .bool b => some (if b then "true" else "false").toList
  | .int n => some (intText n).toList
  | .float x => some (floatText x).toList
  | .text s => some (scalar true indent column s.toList)
  | .list [] => some ['[', ']']
  | .mapping [] => some ['\x7b', '\x7d']
  | .record .. => some "null".toList
  | _ => none

/-- Whether a key can stand before its colon: on one line, and less than 123 characters. -/
def isSimpleKey (key : String) : Bool :=
  let cs := key.toList
  !cs.isEmpty && '\n' ∉ cs && cs.length < 123

/-- What stands before the value of an entry: the key and its colon, on lines of their own for a
key that is not simple; with the column behind it, and whether the key was simple. -/
def key (indent : Nat) (name : String) : List Char × Nat × Bool :=
  if isSimpleKey name then
    let text := scalar false indent indent name.toList ++ [':']
    (text, indent + text.length, true)
  else
    let text := '?' :: ' ' :: scalar true (indent + 2) (indent + 2) name.toList
    (text ++ newLine indent ++ [':'], indent + 1, false)

mutual

/-- A value after a colon or a hyphen that ends at `column`, in a collection indented by `indent`.
A collection behind a key starts on a line of its own, and its items are not indented further. -/
def value (indent column : Nat) (behindKey : Bool) : Value → List Char
  | .list (v :: rest) =>
      if behindKey then newLine indent ++ items indent (v :: rest)
      else ' ' :: items (indent + 2) (v :: rest)
  | .mapping (e :: rest) =>
      (if behindKey then newLine (indent + 2) else [' ']) ++ entries (indent + 2) (e :: rest)
  | v => ' ' :: (atom? (indent + 2) (column + 1) v).getD []

/-- The items of a list, of which the first starts here. -/
def items (indent : Nat) : List Value → List Char
  | [] => []
  | [v] => '-' :: value indent (indent + 1) false v
  | v :: w :: rest =>
      '-' :: value indent (indent + 1) false v ++ newLine indent ++ items indent (w :: rest)

/-- The entries of a mapping, of which the first starts here. -/
def entries (indent : Nat) : List (String × Value) → List Char
  | [] => []
  | [(k, v)] =>
      let (text, column, simple) := key indent k
      text ++ value indent column simple v
  | (k, v) :: e :: rest =>
      let (text, column, simple) := key indent k
      text ++ value indent column simple v ++ newLine indent ++ entries indent (e :: rest)

end

end Writer

/-- The document whose root is a mapping with these entries. -/
def write (entries : List (String × Value)) : String :=
  match Json.sorted (.mapping entries) with
  | .mapping [] => "\x7b\x7d\n"
  | .mapping es => String.ofList (Writer.entries 0 es ++ ['\n'])
  | _ => ""

end ViewModel.Yaml
