import ViewModel.Source.Expression
import ViewModel.Source.Pattern

/-!
Reading statements. Class bodies and functions are kept as far as declarations need them.
-/

namespace ViewModel.Source

/-- Statements with the line they start on where it matters. Statements that declare nothing are
`other`. -/
inductive Statement
  | assign (line : Nat) (targets : List Term) (value : Term)
  | annotated (line : Nat) (target hint : Term) (value : Option Term)
  | function (line : Nat) (name : String) (decorators : List Term) (returns : Option Term)
      (body : List Statement)
  | declaration (line : Nat) (name : String) (bases : List Term) (body : List Statement)
  | returns (value : Option Term)
  | expression (value : Term)
  | other
  deriving Inhabited

/-- How statements read expressions, and how deep. -/
structure Readers where
  expressions : Goal → Reader Term
  depth : Nat

namespace Statement

open Expression

/-- The symbols that change a value in place. -/
def changes : List String :=
  ["+=", "-=", "*=", "@=", "/=", "%=", "&=", "|=", "^=", "<<=", ">>=", "**=", "//="]

section

variable (r : Readers)

/-- What may be assigned: `yield` too. -/
def assigned : Reader Term := do
  if ← Reader.atWord "yield" then yielded r.expressions else r.expressions .listed

/-- What follows the first expression of an assignment, with the targets read before. -/
def assignments (line : Nat) (first : Term) : Reader Statement := do
  let (targets, value) ← Reader.loop (fun (targets, value) => do
    if ← Reader.atSymbol "=" then
      if Term.isTarget value then
        Reader.advance
        return some (targets ++ [value], ← assigned r)
      else Reader.stopAt line
    else return none) ([], first)
  return if targets.isEmpty then .expression value else .assign line targets value

/-- A statement that starts with an expression. -/
def expressionStatement : Reader Statement := do
  let line ← Reader.line
  let first ← assigned r
  match ← Reader.next? with
  | some (.symbol ":") =>
      if first.isSingleTarget then
        Reader.advance
        let hint ← r.expressions .expression
        if ← Reader.optionalSymbol "=" then
          return .annotated line first hint (some (← assigned r))
        else return .annotated line first hint none
      else Reader.stop
  | some (.symbol s) =>
      if changes.contains s then
        if first.isSingleTarget then
          Reader.advance
          let _ ← assigned r
          return .other
        else Reader.stopAt line
      else assignments r line first
  | _ => return .expression first

/-- Names with dots between. -/
def dottedName : Reader Unit := do
  let _ ← Reader.name
  Reader.loop (fun () => do
    if ← Reader.optionalSymbol "." then
      let _ ← Reader.name
      return some ()
    else return none) ()

def importedAs : Reader Unit := do
  if ← Reader.optionalWord "as" then let _ ← Reader.name

/-- One item or more with commas between, without a last comma. -/
def separated (item : Reader Unit) : Reader Unit := do
  item
  Reader.loop (fun () => do
    if ← Reader.optionalSymbol "," then item; return some () else return none) ()

def imported : Reader Unit := do
  let _ ← Reader.name
  importedAs

/-- What follows `from`. -/
def importFrom : Reader Unit := do
  let dots ← Reader.loop (fun _ => do
    if (← Reader.optionalSymbol ".") || (← Reader.optionalSymbol "...") then return some true
    else return none) false
  if !(dots && (← Reader.atWord "import")) then dottedName
  Reader.word "import"
  if ← Reader.optionalSymbol "*" then return ()
  else if ← Reader.optionalSymbol "(" then
    let _ ← Reader.commaList (fun t => (Reader.name? t).isSome) imported
    Reader.symbol ")"
  else separated imported

/-- A statement without a block. -/
def simple : Reader Statement := do
  let e := r.expressions
  match ← Reader.next? with
  | some (.word "pass") | some (.word "break") | some (.word "continue") =>
      Reader.advance
      return .other
  | some (.word "return") =>
      Reader.advance
      if startsItem (← Reader.next?) then return .returns (some (← e .listed))
      else return .returns none
  | some (.word "import") =>
      Reader.advance
      separated (do dottedName; importedAs)
      return .other
  | some (.word "from") => Reader.advance; importFrom; return .other
  | some (.word "raise") =>
      Reader.advance
      if starts (← Reader.next?) then
        let _ ← e .expression
        if ← Reader.optionalWord "from" then let _ ← e .expression
      return .other
  | some (.word "del") =>
      Reader.advance
      let line ← Reader.line
      let t ← targets e
      if t.isDeletable then return .other else Reader.stopAt line
  | some (.word "assert") =>
      Reader.advance
      let _ ← e .expression
      if ← Reader.optionalSymbol "," then let _ ← e .expression
      return .other
  | some (.word "global") | some (.word "nonlocal") =>
      Reader.advance
      separated (do let _ ← Reader.name)
      return .other
  | _ => expressionStatement r

/-- Statements on one line, with semicolons between, up to the end of the line. -/
def simpleLine : Reader (List Statement) := do
  let first ← simple r
  let (statements, _) ← Reader.loop (fun (statements, ended) => do
    if ended then return none
    else if ← Reader.optionalSymbol ";" then
      if ← Reader.atToken .newline then return some (statements, true)
      else return some (statements ++ [← simple r], false)
    else return none) ([first], false)
  Reader.token .newline
  return statements

section

-- `block` reads the statements of an indented block or of the rest of a line.
variable (block : Reader (List Statement))

def colonBlock : Reader (List Statement) := do
  Reader.symbol ":"
  block

def elseBlock : Reader Unit := do
  if ← Reader.optionalWord "else" then let _ ← colonBlock block

/-- What follows `if` or `while`. -/
def condition : Reader Unit := do
  let _ ← named r.expressions
  let _ ← colonBlock block

def ifStatement : Reader Statement := do
  condition r block
  Reader.loop (fun () => do
    if ← Reader.optionalWord "elif" then condition r block; return some () else return none) ()
  elseBlock block
  return .other

def whileStatement : Reader Statement := do
  condition r block
  elseBlock block
  return .other

def forStatement : Reader Statement := do
  let _ ← targets r.expressions
  Reader.word "in"
  let _ ← r.expressions .listed
  let _ ← colonBlock block
  elseBlock block
  return .other

def withItem : Reader Unit := do
  let _ ← r.expressions .expression
  if ← Reader.optionalWord "as" then
    let line ← Reader.line
    let t ← starOr r.expressions (bitwiseOr r.expressions)
    if !t.isTarget then Reader.stopAt line

/-- The items of a `with` in parentheses. -/
def enclosedItems : Reader Unit := do
  Reader.symbol "("
  let _ ← Reader.commaList starts (withItem r)
  Reader.symbol ")"
  Reader.symbol ":"

def withStatement : Reader Statement := do
  Reader.orElse (enclosedItems r) (do separated (withItem r); Reader.symbol ":")
  let _ ← block
  return .other

/-- The handlers of a `try`: their number, and whether they start with `except *`. -/
def handlers : Reader (Nat × Bool) := do
  Reader.loop (fun (n, starred) => do
    if ← Reader.optionalWord "except" then
      let star ← Reader.optionalSymbol "*"
      if n ≠ 0 && star ≠ starred then Reader.stop
      else
        if star || !(← Reader.atSymbol ":") then
          let _ ← r.expressions .expression
          if ← Reader.optionalWord "as" then let _ ← Reader.name
        let _ ← colonBlock block
        return some (n + 1, star)
    else return none) (0, false)

def tryStatement : Reader Statement := do
  let _ ← colonBlock block
  let (n, _) ← handlers r block
  if n ≠ 0 then elseBlock block
  if ← Reader.optionalWord "finally" then let _ ← colonBlock block
  else if n = 0 then Reader.stopHere
  return .other

def functionStatement (line : Nat) (decorators : List Term) : Reader Statement := do
  let name ← Reader.name
  Reader.symbol "("
  parameters r.expressions true ")"
  Reader.symbol ")"
  let returns ←
    if ← Reader.optionalSymbol "->" then pure (some (← r.expressions .expression))
    else pure none
  let body ← colonBlock block
  return .function line name decorators returns body

def classStatement (line : Nat) : Reader Statement := do
  let name ← Reader.name
  let bases ← if ← Reader.optionalSymbol "(" then arguments r.expressions false else pure []
  let body ← colonBlock block
  return .declaration line name bases body

def asyncStatement : Reader Statement := do
  if ← Reader.optionalWord "def" then
    let _ ← functionStatement r block 0 []
    return .other
  else if ← Reader.optionalWord "for" then forStatement r block
  else
    Reader.word "with"
    withStatement r block

def decorators : Reader (List Term) := do
  Reader.loop (fun ts => do
    if ← Reader.optionalSymbol "@" then
      let t ← named r.expressions
      Reader.token .newline
      return some (ts ++ [t])
    else return none) []

/-- A class or a function, perhaps decorated. -/
def decorated : Reader Statement := do
  let ts ← decorators r
  let line ← Reader.line
  if ← Reader.optionalWord "class" then classStatement r block line
  else if ← Reader.optionalWord "async" then
    Reader.word "def"
    let _ ← functionStatement r block line ts
    return .other
  else
    Reader.word "def"
    functionStatement r block line ts

/-- One `case` of a `match`. -/
def caseBlock : Reader Unit := do
  Reader.word "case"
  Pattern.listed r.depth
  if ← Reader.optionalWord "if" then let _ ← named r.expressions
  let _ ← colonBlock block

/-- What is matched: a comma or a star makes a tuple. -/
def subject : Reader Unit := do
  let (items, comma) ← Reader.commaList startsItem (displayItem r.expressions)
  if !comma && items.any Term.isStarred then Reader.stop

def matchStatement : Reader Statement := do
  Reader.word "match"
  subject r
  Reader.symbol ":"
  Reader.token .newline
  Reader.indent
  caseBlock r block
  Reader.loop (fun () => do
    if ← Reader.atWord "case" then caseBlock r block; return some () else return none) ()
  Reader.token .dedent
  return .other

/-- One statement with a block, or a line of statements without. -/
def statements : Reader (List Statement) := do
  match ← Reader.next? with
  | some (.word "if") => Reader.advance; return [← ifStatement r block]
  | some (.word "while") => Reader.advance; return [← whileStatement r block]
  | some (.word "for") => Reader.advance; return [← forStatement r block]
  | some (.word "with") => Reader.advance; return [← withStatement r block]
  | some (.word "try") => Reader.advance; return [← tryStatement r block]
  | some (.word "def") | some (.word "class") | some (.symbol "@") =>
      return [← decorated r block]
  | some (.word "async") => Reader.advance; return [← asyncStatement r block]
  | some (.word "match") =>
      Reader.orElse (do return [← matchStatement r block]) (simpleLine r)
  | _ => simpleLine r

end

/-- Statements as long as there are more before this token. -/
def statementsUpTo (closing : Token) (block : Reader (List Statement)) :
    Reader (List Statement) := do
  let all ← Reader.loop (fun all => do
    if ← Reader.atToken closing then return none
    else return some (all ++ (← statements r block))) []
  Reader.token closing
  return all

/-- One step of reading a block, which other blocks may stand in. -/
def blockStep (self : Reader (List Statement)) : Reader (List Statement) := do
  if ← Reader.optional .newline then
    Reader.indent
    let first ← statements r self
    return first ++ (← statementsUpTo r .dedent self)
  else simpleLine r

/-- Reads a block; each one inside another takes a token first. -/
def block : Nat → Reader (List Statement)
  | 0 => Reader.stop
  | fuel + 1 => blockStep r (block fuel)

end

end Statement

/-- Where the text stops being readable: the line of the fault. Indentation that nothing asks for
comes first, then a fault in the characters, and an open bracket before what it hides. -/
def faultLine (scanned : Scan) (s : Stop) : Nat :=
  match s.rest with
  | [] => (scanned.fault.map ScanFault.line).getD 1
  | l :: _ =>
      let line := s.line.getD l.line
      if s.line.isNone && (l.token == .indent || l.token == .dedent) then line
      else
        match scanned.fault with
        | none => line
        | some f =>
            if f.lexical then f.line
            else
              match f.openSince with
              | some o => if o < l.line then o else line
              | none => line

/-- The readers for a text of this length. -/
def readersFor (length : Nat) : Readers :=
  ⟨Expression.read (3 * length + 3), length⟩

/-- Reads a whole file; the error is the line of the fault. -/
def readStatements (source : String) : Except Nat (List Statement) :=
  let scanned := scanFile source.toList
  let r := readersFor (source.length + 1)
  match (Statement.statementsUpTo r .finish (Statement.block r (source.length + 1))).run
      scanned.lexemes with
  | .ok (statements, _) => .ok statements
  | .error s => .error (faultLine scanned s)

/-- Reads a text that is one expression. -/
def readExpression? (source : String) : Option Term :=
  let scanned := scan (Text.unifyLineEnds source.toList)
  let reader : Reader Term := do
    let (ts, comma) ← Reader.commaList Expression.starts
      (Expression.read (3 * source.length + 3) .expression)
    Reader.loop (fun () => do
      if ← Reader.optional .newline then return some () else return none) ()
    Reader.token .finish
    match ts, comma with
    | [t], false => return t
    | ts, _ => return .tuple ts
  match reader.run scanned.lexemes with
  | .ok (t, _) => some t
  | .error _ => none

end ViewModel.Source
