import ViewModel.Source.Numeral
import ViewModel.Text.Identifier
import ViewModel.Text.Lines
import ViewModel.Text.Printable

/-!
From characters to tokens. Indentation becomes tokens of its own, line ends inside brackets and
after a backslash count for nothing, and a bracket has to be closed by its own kind.
-/

namespace ViewModel.Source

/-- `indents` are the columns of the enclosing blocks, innermost first, each measured with tabs to
every eighth column and with tabs as wide as a space; `brackets` are the open ones with their
lines, innermost first. -/
structure Scanner where
  line : Nat
  indents : List (Nat × Nat)
  brackets : List (Char × Nat)

namespace Scanner

def fault (s : Scanner) (lexical : Bool) : ScanFault :=
  ⟨s.line, lexical, s.brackets.head?.map Prod.snd⟩

def lexeme (s : Scanner) (t : Token) : Lexeme := ⟨t, s.line, s.brackets.length⟩

/-- The white space before a line: its width both ways, the width up to the first backslash that
continues it, and how many lines it takes. -/
structure Margin where
  column : Nat
  alternative : Nat
  continued : Nat
  lines : Nat

/-- Measures the margin; `none` where a backslash does not end a line, or ends the text. -/
def margin? (m : Margin) : List Char → Option (Margin × List Char)
  | ' ' :: rest => margin? { m with column := m.column + 1, alternative := m.alternative + 1 } rest
  | '\t' :: rest =>
      margin? { m with column := (m.column / 8 + 1) * 8, alternative := m.alternative + 1 } rest
  | '\x0c' :: rest => margin? { m with column := 0, alternative := 0 } rest
  | '\\' :: '\n' :: rest =>
      if rest.isEmpty then none
      else
        margin? { m with
          continued := if m.continued = 0 then m.column else m.continued
          lines := m.lines + 1 } rest
  | '\\' :: _ => none
  | rest => some (m, rest)

/-- The enclosing blocks that remain at a column, and how many end. -/
def closeBlocks (column : Nat) : List (Nat × Nat) → List (Nat × Nat) × Nat
  | [] => ([], 0)
  | top :: rest =>
      if column < top.1 then
        let (kept, n) := closeBlocks column rest
        (kept, n + 1)
      else (top :: rest, 0)

/-- The indentation tokens of a line that starts at this column. -/
def indentTokens? (indents : List (Nat × Nat)) (column alternative : Nat) :
    Option (List Token × List (Nat × Nat)) :=
  let top := indents.head?.getD (0, 0)
  if column = top.1 then if alternative = top.2 then some ([], indents) else none
  else if top.1 < column then
    if 99 ≤ indents.length ∨ alternative ≤ top.2 then none
    else some ([.indent], (column, alternative) :: indents)
  else
    let (kept, n) := closeBlocks column indents
    if kept.head?.getD (0, 0) = (column, alternative) then
      some (List.replicate n .dedent, kept)
    else none

/-- The letters before a quote that say how to read the text. -/
def quotePrefixes : List (List Char) :=
  ["", "b", "u", "r", "f", "br", "rb", "fr", "rf"].map String.toList

def isQuoteMark (c : Char) : Bool := c = '\'' || c = '"'

/-- How many letters stand before a quote mark here, if a text literal starts here. -/
def quoteStart? (cs : List Char) : Option Nat :=
  [0, 1, 2].find? (fun n =>
    (cs[n]?.any isQuoteMark) && quotePrefixes.contains ((cs.take n).map Char.toLower))

/-- The body of a text literal on one line and what follows its closing mark. -/
def shortBody? (mark : Char) : List Char → Option (List Char × List Char)
  | [] => none
  | '\\' :: c :: rest => (shortBody? mark rest).map (fun (b, r) => ('\\' :: c :: b, r))
  | c :: rest =>
      if c = mark then some ([], rest)
      else if c = '\n' then none
      else (shortBody? mark rest).map (fun (b, r) => (c :: b, r))

/-- The body of a text literal between threefold marks and what follows them. -/
def longBody? (mark : Char) : List Char → Option (List Char × List Char)
  | [] => none
  | '\\' :: c :: rest => (longBody? mark rest).map (fun (b, r) => ('\\' :: c :: b, r))
  | c :: rest =>
      if c = mark ∧ rest.take 2 = [mark, mark] then some ([], rest.drop 2)
      else (longBody? mark rest).map (fun (b, r) => (c :: b, r))

/-- The body of a text literal that starts with its marks. -/
def quoteBody? : List Char → Option (List Char × List Char)
  | [] => none
  | mark :: rest =>
      if rest.take 2 = [mark, mark] then longBody? mark (rest.drop 2) else shortBody? mark rest

/-- A text literal with `n` letters before its marks. -/
def quote? (n : Nat) (cs : List Char) : Option (Quote × List Char) :=
  let letters := (cs.take n).map Char.toLower
  (quoteBody? (cs.drop n)).map (fun (body, r) =>
    ({ bytes := letters.contains 'b', raw := letters.contains 'r',
       formatted := letters.contains 'f', body := body }, r))

def isIdentifier : List Char → Bool
  | [] => false
  | c :: rest => Text.isIdentifierStart c && rest.all Text.isIdentifierPart

def longSymbols : List String := ["**=", "//=", ">>=", "<<=", "..."]

def pairSymbols : List String :=
  ["!=", "%=", "&=", "**", "*=", "+=", "-=", "->", "//", "/=", ":=", "<<", "<=", "<>", "==",
    ">=", ">>", "@=", "^=", "|="]

/-- The symbol that starts here, the longest one. -/
def symbol (cs : List Char) : String × List Char :=
  if longSymbols.contains (String.ofList (cs.take 3)) then (String.ofList (cs.take 3), cs.drop 3)
  else if pairSymbols.contains (String.ofList (cs.take 2)) then
    (String.ofList (cs.take 2), cs.drop 2)
  else (String.ofList (cs.take 1), cs.drop 1)

def closes (opening closing : Char) : Bool :=
  (opening, closing) ∈ [('(', ')'), ('[', ']'), ('\x7b', '\x7d')]

/-- Keeps account of brackets; `none` for a bracket that closes nothing or another kind. -/
def track? (s : Scanner) (c : Char) : Option Scanner :=
  if c ∈ ['(', '[', '\x7b'] then
    if 200 ≤ s.brackets.length then none
    else some { s with brackets := (c, s.line) :: s.brackets }
  else if c ∈ [')', ']', '\x7d'] then
    match s.brackets with
    | (o, _) :: outer => if closes o c then some { s with brackets := outer } else none
    | [] => none
  else some s

/-- One token that is not a line end: the token, the scanner after it, and the rest. -/
def token (s : Scanner) (cs : List Char) : Except ScanFault (Lexeme × Scanner × List Char) :=
  match cs with
  | [] => .error (s.fault false)
  | c :: rest =>
      match quoteStart? cs with
      | some n =>
          match quote? n cs with
          | none => .error (s.fault true)
          | some (q, r) =>
              .ok (s.lexeme (.quote q),
                { s with line := s.line + Text.newlines (cs.take (cs.length - r.length)) }, r)
      | none =>
          if isWordStart c then
            let (w, r) := cs.span isWordPart
            if w.all (fun d => d.toNat < 128) || isIdentifier w then
              .ok (s.lexeme (.word (String.ofList w)), s, r)
            else .error (s.fault true)
          else if c.isDigit || (c = '.' && rest.head?.any Char.isDigit) then
            match numeral? cs with
            | some (t, r) => .ok (s.lexeme t, s, r)
            | none => .error (s.fault true)
          else
            let (text, r) := symbol cs
            match s.track? c with
            | none => .error (s.fault true)
            | some s' =>
                if Text.isPrintable c then .ok (s'.lexeme (.symbol text), s', r)
                else .error (s.fault true)

/-- The tokens from here on. Every step takes a character, ends the text, or goes from the margin
of a line to its content, so twice the length of the text is enough fuel. -/
def run : Nat → Bool → Scanner → List Char → Scan
  | 0, _, s, _ => ⟨[], some (s.fault false)⟩
  | fuel + 1, true, s, cs =>
      match margin? ⟨0, 0, 0, 0⟩ cs with
      | none => ⟨[], some (s.fault false)⟩
      | some (m, rest) =>
          let s := { s with line := s.line + m.lines }
          match rest with
          | '\n' :: r => run fuel true { s with line := s.line + 1 } r
          | '#' :: _ =>
              match rest.dropWhile (· ≠ '\n') with
              | '\n' :: r => run fuel true { s with line := s.line + 1 } r
              | r => run fuel false s r
          | r =>
              if s.brackets.isEmpty then
                let column := if m.continued = 0 then m.column else m.continued
                let alternative := if m.continued = 0 then m.alternative else m.continued
                match indentTokens? s.indents column alternative with
                | none => ⟨[], some (s.fault false)⟩
                | some (tokens, indents) =>
                    let s := { s with indents := indents }
                    let after := run fuel false s r
                    { after with lexemes := tokens.map s.lexeme ++ after.lexemes }
              else run fuel false s r
  | fuel + 1, false, s, cs =>
      match cs with
      | [] =>
          if s.brackets.isEmpty then ⟨[s.lexeme .finish], none⟩
          else ⟨[], some { s.fault false with line := (s.brackets.head?.map Prod.snd).getD s.line }⟩
      | ' ' :: r | '\t' :: r | '\x0c' :: r => run fuel false s r
      | '#' :: r => run fuel false s (r.dropWhile (· ≠ '\n'))
      | '\\' :: '\n' :: r =>
          if r.isEmpty then ⟨[], some (s.fault false)⟩
          else run fuel false { s with line := s.line + 1 } r
      | '\\' :: _ => ⟨[], some (s.fault false)⟩
      | '\n' :: r =>
          let after := run fuel true { s with line := s.line + 1 } r
          if s.brackets.isEmpty then
            { after with lexemes := s.lexeme .newline :: after.lexemes }
          else after
      | cs =>
          match s.token cs with
          | .error f => ⟨[], some f⟩
          | .ok (l, s', r) =>
              let after := run fuel false s' r
              { after with lexemes := l :: after.lexemes }

end Scanner

/-- The tokens of a text whose line ends are unified. -/
def scan (cs : List Char) : Scan :=
  let scanned := Scanner.run (2 * cs.length + 2) true ⟨1, [], []⟩ cs
  let lines := max 1 (Text.newlines cs + (if cs.getLast?.all (· = '\n') then 0 else 1))
  -- tokens at the end of the text belong to its last line
  { scanned with
    lexemes := scanned.lexemes.map (fun l => { l with line := min l.line lines })
    fault := scanned.fault.map (fun f => { f with line := min f.line lines }) }

/-- Whether the last line end is written with two characters. -/
def endsInTwo (cs : List Char) : Bool := cs.drop (cs.length - 2) == ['\r', '\n']

/-- The tokens of a whole file, whose last line counts as ended. One that is ended by two
characters has an empty line after it. -/
def scanFile (cs : List Char) : Scan :=
  let lines := Text.unifyLineEnds cs
  let ended := cs.isEmpty || (lines.getLast? == some '\n' && !endsInTwo cs)
  scan (if ended then lines else lines ++ ['\n'])

end ViewModel.Source
