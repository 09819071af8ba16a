import ViewModel.Yaml.ScalarText

/-!
From text to tokens. A mapping key is known as one only by the colon after it: every place where a
key may start is remembered, with the number of tokens before it, and the colon puts the key's
token there. A place is forgotten on the next line or after 1024 characters.
-/

namespace ViewModel.Yaml

/-- A place where a key may have started. A `required` one must turn out to be a key. -/
structure KeyPlace where
  tokensBefore : Nat
  required : Bool
  line : Nat
  column : Nat
  offset : Nat

/-- `tokens` has the latest first. There is one place for a key in every open flow collection,
`place` in the innermost one. Outside of blocks the indentation is -1. -/
structure Scanner where
  cursor : Cursor
  tokens : List Token
  indent : Int
  outerIndents : List Int
  place : Option KeyPlace
  outerPlaces : List (Option KeyPlace)
  keyAllowed : Bool

namespace Scanner

abbrev Outcome (α : Type) := Except YamlError α

def ofChars (cs : List Char) : Scanner :=
  let c := Cursor.ofChars cs
  let c := if c.peek = some '\uFEFF' then c.next else c
  ⟨c, [], -1, [], none, [], true⟩

def inFlow (s : Scanner) : Bool := !s.outerPlaces.isEmpty

def push (s : Scanner) (t : Token) : Scanner := { s with tokens := t :: s.tokens }

/-- Puts tokens, latest first, behind the first `n` tokens. -/
def putAt (s : Scanner) (n : Nat) (ts : List Token) : Scanner :=
  let later := s.tokens.length - n
  { s with tokens := s.tokens.take later ++ ts ++ s.tokens.drop later }

/-- Past spaces, comments and line ends. In a block a new line may start with a key. -/
def skipBlank : Nat → Scanner → Scanner
  | 0, s => s
  | fuel + 1, s =>
      let c := (s.cursor.span (· = ' ')).2
      let c := if c.peek = some '#' then (c.span (!isBreak ·)).2 else c
      if c.peek.any isBreak then
        skipBlank fuel { s with cursor := c.next, keyAllowed := s.keyAllowed || !s.inFlow }
      else { s with cursor := c }

def isStale (c : Cursor) (p : KeyPlace) : Bool := p.line ≠ c.line || p.offset + 1024 < c.offset

/-- Forgets a place that is too far behind. -/
def refresh (c : Cursor) (p : Option KeyPlace) : Outcome (Option KeyPlace) :=
  match p with
  | none => .ok none
  | some p =>
      if !isStale c p then .ok (some p)
      else if p.required then .error .malformed
      else .ok none

def forgetStale (s : Scanner) : Outcome Scanner := do
  return { s with
    place := ← refresh s.cursor s.place
    outerPlaces := ← s.outerPlaces.mapM (refresh s.cursor) }

/-- Ends the blocks that are indented further than a column. -/
def endBlocks (column : Int) (s : Scanner) : Scanner :=
  if s.inFlow then s
  else
    let rec go (indent : Int) : List Int → Scanner → Scanner
      | [], s => { s with indent := indent, outerIndents := [] }
      | outer :: rest, s =>
          if column < indent then go outer rest (s.push .blockEnd)
          else { s with indent := indent, outerIndents := outer :: rest }
    go s.indent s.outerIndents s

/-- Opens a block at a column; whether there was none at that column before. -/
def openBlock (column : Int) (s : Scanner) : Bool × Scanner :=
  if s.indent < column then
    (true, { s with indent := column, outerIndents := s.indent :: s.outerIndents })
  else (false, s)

/-- Opens a block with its token. -/
def startBlock (t : Token) (s : Scanner) : Scanner :=
  let (isNew, s) := s.openBlock s.cursor.column
  if isNew then s.push t else s

def forgetPlace (s : Scanner) : Outcome Scanner :=
  if s.place.any (·.required) then .error .malformed else .ok { s with place := none }

/-- Remembers that a key may start here. -/
def markPlace (s : Scanner) : Outcome Scanner := do
  if !s.keyAllowed then return s
  let s ← s.forgetPlace
  let c := s.cursor
  return { s with place := some ⟨s.tokens.length, !s.inFlow && s.indent = c.column,
    c.line, c.column, c.offset⟩ }

def advance (n : Nat) (s : Scanner) : Scanner := { s with cursor := s.cursor.skip n }

def isNameChar (c : Char) : Bool := c.isAlphanum || c = '-' || c = '_'

def isAddressChar (c : Char) : Bool := c.isAlphanum || c ∈ "-;/?:@&=+$,_.!~*'()[]%".toList

/-- The name of an anchor or an alias. -/
def name (c : Cursor) : Outcome (String × Cursor) :=
  let (run, c) := c.span isNameChar
  if run.isEmpty then .error .malformed
  else if Cursor.endsToken c.rest || c.peek.any (· ∈ "?:,]\x7d%@\x60".toList) then
    .ok (String.ofList run, c)
  else .error .malformed

/-- Numeric escapes in the name of a tag. -/
def unescape : List Char → Option (List Char)
  | [] => some []
  | '%' :: a :: b :: rest => do
      let n ← Text.hexValue? [a, b]
      return Text.character n :: (← unescape rest)
  | c :: rest => if c = '%' then none else (unescape rest).map (c :: ·)

def address (c : Cursor) : Outcome (String × Cursor) :=
  let (run, c) := c.span isAddressChar
  match unescape run with
  | some cs => if run.isEmpty then .error .malformed else .ok (String.ofList cs, c)
  | none => .error .malformed

/-- The handle of a tag, from its exclamation mark to the next one. -/
def handle (c : Cursor) : Outcome (String × Cursor) :=
  let (run, c) := c.next.span isNameChar
  if c.peek = some '!' then .ok (String.ofList ('!' :: run ++ ['!']), c.next)
  else .error .malformed

/-- A tag: between angle brackets, with a handle, or after an exclamation mark. -/
def tag (c : Cursor) : Outcome (Token × Cursor) := do
  let after := c.next
  let (t, c) ←
    if after.peek = some '<' then do
      let (suffix, c) ← address after.next
      if c.peek = some '>' then .ok (Token.tag none suffix, c.next) else .error .malformed
    else if Cursor.endsToken after.rest then .ok (Token.tag none "!", after)
    else if '!' ∈ after.rest.takeWhile (fun d => d ≠ ' ' && !isBreak d) then do
      let (h, c) ← handle c
      let (suffix, c) ← address c
      .ok (Token.tag (some h) suffix, c)
    else do
      let (suffix, c) ← address after
      .ok (Token.tag (some "!") suffix, c)
  if Cursor.endsToken c.rest && c.peek ≠ some '\t' then return (t, c) else throw .malformed

def digits (c : Cursor) : Outcome (Nat × Cursor) :=
  let (run, c) := c.span Char.isDigit
  if run.isEmpty then .error .malformed else .ok (Nat.ofDigitChars 10 run 0, c)

def spaces (c : Cursor) : Cursor := (c.span (· = ' ')).2

/-- A directive after its percent sign. -/
def directive (c : Cursor) : Outcome (Token × Cursor) := do
  let (word, c) := c.span isNameChar
  if word.isEmpty || !(Cursor.endsToken c.rest && c.peek ≠ some '\t') then throw .malformed
  let (t, c) ←
    if word = "YAML".toList then do
      let (major, c) ← digits (spaces c)
      if c.peek ≠ some '.' then .error .malformed
      else
        let (_, c) ← digits c.next
        .ok (Token.version major, c)
    else if word = "TAG".toList then do
      let c := spaces c
      let run := (c.next.span isNameChar).2
      if c.peek ≠ some '!' then .error .malformed
      else
        let (h, c) := if run.peek = some '!' then
            (String.ofList (c.rest.take (run.offset - c.offset + 1)), run.next)
          else ("!", c.next)
        if c.peek ≠ some ' ' then .error .malformed
        else
          let (lead, c) ← address (spaces c)
          .ok (Token.handle h lead, c)
    else .ok (Token.otherDirective, (c.span (!isBreak ·)).2)
  if !Cursor.endsToken c.rest then throw .malformed
  return (t, ← Block.endLine c)

/-- A token of one character that ends whatever key was open. -/
def separator (t : Token) (s : Scanner) : Outcome Scanner := do
  let s ← s.forgetPlace
  return ({ s with keyAllowed := true }.advance 1).push t

def openFlow (t : Token) (s : Scanner) : Outcome Scanner := do
  let s ← s.markPlace
  let s := { s with place := none, outerPlaces := s.place :: s.outerPlaces, keyAllowed := true }
  return (s.advance 1).push t

def closeFlow (t : Token) (s : Scanner) : Outcome Scanner := do
  let s ← s.forgetPlace
  match s.outerPlaces with
  | [] => throw .malformed
  | p :: rest =>
      return ({ s with place := p, outerPlaces := rest, keyAllowed := false }.advance 1).push t

/-- An item or an explicit key: in a block it may open one. -/
def indicator (block t : Token) (s : Scanner) : Outcome Scanner :=
  if s.inFlow then separator t s
  else if s.keyAllowed then separator t (s.startBlock block)
  else .error .malformed

def keyIndicator (s : Scanner) : Outcome Scanner := do
  let s ← indicator .blockMapping .key s
  return { s with keyAllowed := !s.inFlow }

/-- A colon: the key before it gets its token, and with it the block that it opens. -/
def colon (s : Scanner) : Outcome Scanner := do
  match s.place with
  | some p =>
      let s := { s with place := none, keyAllowed := false }
      let (isNew, s) := if s.inFlow then (false, s) else s.openBlock p.column
      let s := s.putAt p.tokensBefore (.key :: if isNew then [.blockMapping] else [])
      return (s.advance 1).push .value
  | none =>
      if !s.inFlow && !s.keyAllowed then throw .malformed
      let s := if s.inFlow then s else s.startBlock .blockMapping
      return ({ s with keyAllowed := !s.inFlow }.advance 1).push .value

/-- A token that may be a key or a part of one. -/
def atom (scan : Cursor → Outcome (Token × Cursor)) (s : Scanner) : Outcome Scanner := do
  let s ← s.markPlace
  let (t, c) ← scan s.cursor
  return { s with cursor := c, keyAllowed := false }.push t

def quoted (double : Bool) (c : Cursor) : Outcome (Token × Cursor) := do
  let (text, c) ← Quoted.scan double c.rest.length c.next []
  return (.scalar false (String.ofList text), c)

def plain (s : Scanner) : Outcome Scanner := do
  let s ← s.markPlace
  let (text, c, atLine) :=
    Plain.scan s.inFlow (s.indent + 1) s.cursor.rest.length s.cursor [] [] false
  return { s with cursor := c, keyAllowed := atLine }.push (.scalar true (String.ofList text))

def block (folded : Bool) (s : Scanner) : Outcome Scanner := do
  let s ← s.forgetPlace
  let (text, c) ← Block.scan folded s.indent s.cursor.next
  return { s with cursor := c, keyAllowed := true }.push (.scalar false (String.ofList text))

/-- A token at the start of a line that ends all blocks. -/
def outermost (s : Scanner) : Outcome Scanner := do
  let s ← (s.endBlocks (-1)).forgetPlace
  return { s with keyAllowed := false }

/-- Whether a plain scalar may start with these characters. -/
def startsPlain (inFlow : Bool) (cs : List Char) : Bool :=
  match cs with
  | [] => false
  | c :: rest =>
      if c = '-' then !Cursor.endsToken rest
      else if c = '?' || c = ':' then !inFlow && !Cursor.endsToken rest
      else !isBlank c && !isBreak c && c ∉ ",[]\x7b\x7d#&*!|>'\"%@\x60".toList

/-- The token that starts with `c`, of which `rest` follows. -/
def token (c : Char) (rest : List Char) (s : Scanner) : Outcome Scanner :=
  let alone := Cursor.endsToken rest
  if c = '%' && s.cursor.column = 0 then do
    let s ← s.outermost
    let (t, c) ← directive s.cursor.next
    return { s with cursor := c }.push t
  else if s.cursor.column = 0 && s.cursor.atMarker then do
    let s ← s.outermost
    return (s.advance 3).push (if c = '-' then .documentStart else .documentEnd)
  else if c = '[' then s.openFlow .openSequence
  else if c = '\x7b' then s.openFlow .openMapping
  else if c = ']' then s.closeFlow .closeSequence
  else if c = '\x7d' then s.closeFlow .closeMapping
  else if c = ',' then s.separator .comma
  else if c = '-' && alone then s.indicator .blockSequence .item
  else if c = '?' && (s.inFlow || alone) then s.keyIndicator
  else if c = ':' && (s.inFlow || alone) then s.colon
  else if c = '*' then s.atom (fun c => do let (n, c) ← name c.next; return (.reference n, c))
  else if c = '&' then s.atom (fun c => do let (n, c) ← name c.next; return (.anchor n, c))
  else if c = '!' then s.atom tag
  else if c = '|' && !s.inFlow then s.block false
  else if c = '>' && !s.inFlow then s.block true
  else if c = '\'' then s.atom (quoted false)
  else if c = '"' then s.atom (quoted true)
  else if startsPlain s.inFlow (c :: rest) then s.plain
  else .error .malformed

/-- All tokens of a text; every step takes at least one character. -/
def run : Nat → Scanner → Outcome (List Token)
  | 0, _ => .error .malformed
  | fuel + 1, s => do
      let s := skipBlank (s.cursor.rest.length + 1) s
      let s ← s.forgetStale
      let s := s.endBlocks s.cursor.column
      match s.cursor.rest with
      | [] => return (← s.outermost).tokens.reverse
      | c :: rest => run fuel (← s.token c rest)

end Scanner

/-- The tokens of a text. -/
def tokens (text : String) : Except YamlError (List Token) :=
  if !text.toList.all isReadable then .error .malformed
  else
    let cs := Text.unifyLineEnds text.toList
    let cs := cs.map (fun c => if c = '\u0085' then '\n' else c)
    Scanner.run (cs.length + 1) (.ofChars cs)

end ViewModel.Yaml
