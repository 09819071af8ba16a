import ViewModel.Text.Lines

/-!
Tokens of YAML text, and the cursor that reads them. Lines end at a line feed, a line separator or
a paragraph separator; the other line ends are turned into line feeds beforehand.
-/

namespace ViewModel.Yaml

/-- Why a text is no YAML document: its form, or a scalar in the form of a number or a date that
is none. -/
inductive YamlError
  | malformed
  | scalar
  deriving DecidableEq

/-- Block collections are told by indentation: they start with a token and end with `blockEnd`. -/
inductive Token
  | version (major : Nat)
  | handle (name lead : String)
  | otherDirective
  | documentStart
  | documentEnd
  | blockSequence
  | blockMapping
  | blockEnd
  | openSequence
  | closeSequence
  | openMapping
  | closeMapping
  | item
  | comma
  | key
  | value
  | reference (name : String)
  | anchor (name : String)
  | tag (handle : Option String) (suffix : String)
  | scalar (plain : Bool) (text : String)
  deriving DecidableEq

def isBreak (c : Char) : Bool := c = '\n' || c = '\u2028' || c = '\u2029'

def isBlank (c : Char) : Bool := c = ' ' || c = '\t'

/-- Characters that may stand in YAML text; controls must be written as escapes. -/
def isReadable (c : Char) : Bool :=
  let n := c.toNat
  c = '\t' || c = '\n' || c = '\r' || (0x20 ≤ n && n ≤ 0x7E) || n = 0x85 ||
    (0xA0 ≤ n && n ≤ 0xFFFD) || 0x10000 ≤ n

/-- What is left of a text, and the place where it starts. -/
structure Cursor where
  rest : List Char
  line : Nat
  column : Nat
  offset : Nat

namespace Cursor

def ofChars (cs : List Char) : Cursor := ⟨cs, 0, 0, 0⟩

def peek (c : Cursor) : Option Char := c.rest.head?

/-- One character further; a byte order mark takes no column. -/
def next (c : Cursor) : Cursor :=
  match c.rest with
  | [] => c
  | d :: rest =>
      if isBreak d then ⟨rest, c.line + 1, 0, c.offset + 1⟩
      else ⟨rest, c.line, if d = '\uFEFF' then c.column else c.column + 1, c.offset + 1⟩

def skip (c : Cursor) : Nat → Cursor
  | 0 => c
  | n + 1 => c.next.skip n

/-- The run of characters in a class, and the cursor after it. -/
def span (c : Cursor) (p : Char → Bool) : List Char × Cursor :=
  let run := c.rest.takeWhile p
  (run, c.skip run.length)

/-- Whether a token may end before these characters. -/
def endsToken : List Char → Bool
  | [] => true
  | c :: _ => isBlank c || isBreak c

def endsLine : List Char → Bool
  | [] => true
  | c :: _ => isBreak c

/-- Three hyphens or three points alone in their line part documents. -/
def atMarker (c : Cursor) : Bool :=
  match c.rest with
  | '-' :: '-' :: '-' :: rest | '.' :: '.' :: '.' :: rest => endsToken rest
  | _ => false

end Cursor

/-- A line end inside a scalar counts as a space, unless empty lines follow it. -/
def joinLines (first : Char) (more : List Char) : List Char :=
  if first ≠ '\n' then first :: more
  else if more.isEmpty then [' ']
  else more

end ViewModel.Yaml
