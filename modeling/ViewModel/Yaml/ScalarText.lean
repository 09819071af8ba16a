import ViewModel.Text.Hex
import ViewModel.Yaml.Token

/-!
The texts of scalars: plain, between quotes, or as a block of indented lines.
-/

namespace ViewModel.Yaml

namespace Plain

/-- The characters of a plain scalar up to a blank, a line end or an indicator. -/
def run (inFlow : Bool) : List Char → List Char
  | [] => []
  | c :: rest =>
      let ends :=
        isBlank c || isBreak c ||
          (c = ':' && (Cursor.endsToken rest || (inFlow && rest.head?.any (· ∈ ",[]\x7b\x7d".toList)))) ||
          (inFlow && c ∈ ",?[]\x7b\x7d".toList)
      if ends then [] else c :: run inFlow rest

/-- Line ends and the spaces before them; `none` where a document ends. -/
def breaks : Nat → Cursor → Option (List Char) × Cursor
  | 0, c => (some [], c)
  | fuel + 1, c =>
      match c.peek with
      | some ' ' => breaks fuel c.next
      | some d =>
          if isBreak d then
            if c.next.atMarker then (none, c.next)
            else
              let (more, c) := breaks fuel c.next
              (more.map (d :: ·), c)
          else (some [], c)
      | none => (some [], c)

/-- What stands between two runs, and whether it has a line end. Nothing but an empty gap parts
a scalar from what follows it. -/
def gap (c : Cursor) : List Char × Cursor × Bool :=
  let (spaces, c) := c.span (· = ' ')
  match c.peek with
  | some d =>
      if isBreak d then
        if c.next.atMarker then ([], c.next, true)
        else
          match breaks c.rest.length c.next with
          | (some more, c) => (joinLines d more, c, true)
          | (none, c) => ([], c, true)
      else (spaces, c, false)
  | none => (spaces, c, false)

/-- A plain scalar whose lines are indented by `indent`; whether its end is the start of a line. -/
def scan (inFlow : Bool) (indent : Int) : Nat → Cursor → List Char → List Char → Bool →
    List Char × Cursor × Bool
  | 0, c, text, _, atLine => (text, c, atLine)
  | fuel + 1, c, text, before, atLine =>
      let word := if c.peek = some '#' then [] else run inFlow c.rest
      if word.isEmpty then (text, c, atLine)
      else
        let text := text ++ before ++ word
        let (after, c, atLine) := gap (c.skip word.length)
        if after.isEmpty || c.peek = some '#' || (!inFlow && c.column < indent) then
          (text, c, atLine)
        else scan inFlow indent fuel c text after atLine

end Plain

namespace Quoted

/-- The escapes of one character. -/
def escape? : Char → Option Char
  | '0' => some '\x00'
  | 'a' => some '\x07'
  | 'b' => some '\x08'
  | 't' | '\t' => some '\t'
  | 'n' => some '\n'
  | 'v' => some '\x0b'
  | 'f' => some '\x0c'
  | 'r' => some '\r'
  | 'e' => some '\x1b'
  | ' ' => some ' '
  | '"' => some '"'
  | '\\' => some '\\'
  | '/' => some '/'
  | 'N' => some '\u0085'
  | '_' => some '\u00a0'
  | 'L' => some '\u2028'
  | 'P' => some '\u2029'
  | _ => none

/-- How many digits follow the letter of a numeric escape. -/
def escapeWidth? : Char → Option Nat
  | 'x' => some 2
  | 'u' => some 4
  | 'U' => some 8
  | _ => none

/-- Line ends and the blanks before them. -/
def breaks : Nat → Cursor → Except YamlError (List Char × Cursor)
  | 0, c => .ok ([], c)
  | fuel + 1, c =>
      if c.atMarker then .error .malformed
      else
        let c := (c.span isBlank).2
        match c.peek with
        | some d =>
            if isBreak d then do
              let (more, c) ← breaks fuel c.next
              .ok (d :: more, c)
            else .ok ([], c)
        | none => .ok ([], c)

/-- Blanks, or a line end with the blanks around it. -/
def gap (c : Cursor) : Except YamlError (List Char × Cursor) := do
  let (blanks, c) := c.span isBlank
  match c.peek with
  | none => throw .malformed
  | some d =>
      if isBreak d then
        let (more, c) ← breaks c.rest.length c.next
        return (joinLines d more, c)
      else return (blanks, c)

/-- What an escape stands for, after its backslash. -/
def escape (c : Cursor) : Except YamlError (List Char × Cursor) :=
  match c.peek with
  | none => .error .malformed
  | some d =>
      match escape? d, escapeWidth? d with
      | some e, _ => .ok ([e], c.next)
      | none, some width =>
          let digits := c.next.rest.take width
          match Text.hexValue? digits with
          | some n =>
              if digits.length < width then .error .malformed
              else if 0x110000 ≤ n then .error .scalar
              else .ok ([Text.character n], c.next.skip width)
          | none => .error .malformed
      | none, none =>
          if isBreak d then breaks c.rest.length c.next else .error .malformed

/-- The rest of a scalar between quotes, `double` or single ones. -/
def scan (double : Bool) : Nat → Cursor → List Char → Except YamlError (List Char × Cursor)
  | 0, _, _ => .error .malformed
  | fuel + 1, c, text =>
      match c.rest with
      | [] => .error .malformed
      | d :: rest =>
          if isBlank d || isBreak d then do
            let (more, c) ← gap c
            scan double fuel c (text ++ more)
          else if double && d = '\\' then do
            let (more, c) ← escape c.next
            scan double fuel c (text ++ more)
          else if !double && d = '\'' && rest.head? = some '\'' then
            scan double fuel (c.skip 2) (text ++ ['\''])
          else if d = (if double then '"' else '\'') then .ok (text, c.next)
          else scan double fuel c.next (text ++ [d])

end Quoted

namespace Block

/-- The line ends after the text of a block: one, none, or all of them. -/
inductive Chomping
  | clip
  | strip
  | keep
  deriving DecidableEq

structure Header where
  chomping : Chomping
  indent : Option Nat

def chomping? : Char → Option Chomping
  | '+' => some .keep
  | '-' => some .strip
  | _ => none

def indent? (c : Char) : Option Nat := if c.isDigit then some (c.toNat - '0'.toNat) else none

/-- The indicators of a header, in either order, and how many there are. -/
def indicators (cs : List Char) : Header × Nat :=
  match cs with
  | a :: rest =>
      match chomping? a, indent? a with
      | some k, _ =>
          match rest.head?.bind indent? with
          | some n => (⟨k, some n⟩, 2)
          | none => (⟨k, none⟩, 1)
      | none, some n =>
          match rest.head?.bind chomping? with
          | some k => (⟨k, some n⟩, 2)
          | none => (⟨.clip, some n⟩, 1)
      | none, none => (⟨.clip, none⟩, 0)
  | [] => (⟨.clip, none⟩, 0)

/-- Past the spaces and the comment that end a line, and past its line end. -/
def endLine (c : Cursor) : Except YamlError Cursor :=
  let c := (c.span (· = ' ')).2
  let c := if c.peek = some '#' then (c.span (!isBreak ·)).2 else c
  if Cursor.endsLine c.rest then .ok c.next else .error .malformed

def header (c : Cursor) : Except YamlError (Header × Cursor) := do
  let (h, n) := indicators c.rest
  let c := c.skip n
  if h.indent = some 0 || !Cursor.endsToken c.rest || c.peek = some '\t' then throw .malformed
  return (h, ← endLine c)

/-- Past spaces up to a column. -/
def indentTo (column : Int) : Nat → Cursor → Cursor
  | 0, c => c
  | fuel + 1, c =>
      if c.column < column && c.peek = some ' ' then indentTo column fuel c.next else c

/-- Line ends and the indentation after each of them. -/
def breaks (column : Int) : Nat → Cursor → List Char × Cursor
  | 0, c => ([], c)
  | fuel + 1, c =>
      let c := indentTo column c.rest.length c
      match c.peek with
      | some d =>
          if isBreak d then
            let (more, c) := breaks column fuel c.next
            (d :: more, c)
          else ([], c)
      | none => ([], c)

/-- Empty lines at the start of a block, and the widest indentation among them and the first line
of text. -/
def leading : Nat → Cursor → Nat → List Char × Cursor × Nat
  | 0, c, widest => ([], c, widest)
  | fuel + 1, c, widest =>
      match c.peek with
      | some d =>
          if d = ' ' then leading fuel c.next (max widest c.next.column)
          else if isBreak d then
            let (more, c, widest) := leading fuel c.next widest
            (d :: more, c, widest)
          else ([], c, widest)
      | none => ([], c, widest)

/-- The lines of a block indented to `column`; `before` are the line ends in front of them, and
the last line end and those after it come apart. -/
def lines (folded : Bool) (column : Int) : Nat → Cursor → List Char → List Char →
    List Char × List Char × List Char × Cursor
  | 0, c, text, before => (text, [], before, c)
  | fuel + 1, c, text, before =>
      if c.column ≠ column || c.rest.isEmpty then (text, [], before, c)
      else
        let startsBlank := c.peek.any isBlank
        let (line, c) := c.span (!isBreak ·)
        let text := text ++ before ++ line
        let last := c.peek.toList
        let (more, c) := breaks column c.rest.length c.next
        if c.column ≠ column || c.rest.isEmpty then (text, last, more, c)
        else if folded && last = ['\n'] && !startsBlank && !c.peek.any isBlank then
          lines folded column fuel c (if more.isEmpty then text ++ [' '] else text) more
        else lines folded column fuel c (text ++ last) more

/-- A block scalar after its indicator, inside a collection that is indented by `indent`. -/
def scan (folded : Bool) (indent : Int) (c : Cursor) : Except YamlError (List Char × Cursor) := do
  let (h, c) ← header c
  let least := max 1 (indent + 1)
  let (before, c, column) :=
    match h.indent with
    | some n =>
        let column := least + n - 1
        let (before, c) := breaks column (c.rest.length + 1) c
        (before, c, column)
    | none =>
        let (before, c, widest) := leading (c.rest.length + 1) c 0
        (before, c, max least widest)
  let (text, last, after, c) := lines folded column (c.rest.length + 1) c [] before
  let ending :=
    match h.chomping with
    | .clip => last
    | .strip => []
    | .keep => last ++ after
  return (text ++ ending, c)

end Block

end ViewModel.Yaml
