import ViewModel.Source.Formatted
import ViewModel.Source.Reader
import ViewModel.Source.Term

/-!
Reading expressions. Operators bind by level, and whatever an expression contains is read through
`self`.
-/

namespace ViewModel.Source

/-- The expressions that other expressions contain. `listed` is one or more with commas between. -/
inductive Goal
  | expression
  | inversion
  | factor
  | listed
  deriving DecidableEq

namespace Expression

/-- Whether an expression can start with this token. -/
def starts (t : Option Token) : Bool :=
  match t with
  | some (.word s) => !isReserved s || ["None", "True", "False", "not", "lambda", "await"].contains s
  | some (.number _) | some .overlong | some (.quote _) => true
  | some (.symbol s) => ["(", "[", "\x7b", "-", "+", "~", "..."].contains s
  | _ => false

/-- Whether an expression or a starred one can start with this token. -/
def startsItem (t : Option Token) : Bool := starts t || t == some (.symbol "*")

/-- Any number of operands joined from the left by operators of one level. -/
def leftJoined (ops : List String) (operand : Reader Term) : Reader Term := do
  Reader.loop (fun left => do
    match ← Reader.next? with
    | some (.symbol s) =>
        if ops.contains s then
          Reader.advance
          return some (.arithmetic (s == "|") left (← operand))
        else return none
    | _ => return none) (← operand)

/-- The operators between numbers, the closest level first. -/
def arithmeticLevels : List (List String) :=
  [["*", "/", "//", "%", "@"], ["+", "-"], ["<<", ">>"], ["&"], ["^"], ["|"]]

def isComparison (s : String) : Option CompareOp :=
  match s with
  | "==" => some .eq
  | "!=" => some .notEq
  | "<" => some .lt
  | "<=" => some .ltE
  | ">" => some .gt
  | ">=" => some .gtE
  | _ => none

/-- The comparison operator that stands here, if one does. -/
def comparison? : Reader (Option CompareOp) := do
  match ← Reader.next? with
  | some (.symbol s) =>
      match isComparison s with
      | some op => Reader.advance; return some op
      | none => return none
  | some (.word "in") => Reader.advance; return some .member
  | some (.word "is") =>
      Reader.advance
      return some (if ← Reader.optionalWord "not" then .isNot else .is)
  | some (.word "not") =>
      if Reader.token? (← get).tail == some (.word "in") then
        Reader.advance; Reader.advance
        return some .notMember
      else return none
  | _ => return none

section

variable (self : Goal → Reader Term)

/-- `+`, `-` and `~` before a factor. -/
def prefixes : List (String × PrefixOp) := [("-", .minus), ("+", .plus), ("~", .invert)]

def bitwiseOr : Reader Term :=
  arithmeticLevels.foldl (fun operand ops => leftJoined ops operand) (self .factor)

def comparison : Reader Term := do
  let first ← bitwiseOr self
  let links ← Reader.loop (fun links => do
    match ← comparison? with
    | some op => return some (links ++ [(op, ← bitwiseOr self)])
    | none => return none) []
  return match links with
    | [] => first
    | (op, second) :: more => .compare first op second more

def conjunction : Reader Term := do
  Reader.loop (fun left => do
    if ← Reader.optionalWord "and" then return some (.logical true left (← self .inversion))
    else return none) (← self .inversion)

def disjunction : Reader Term := do
  Reader.loop (fun left => do
    if ← Reader.optionalWord "or" then return some (.logical false left (← conjunction self))
    else return none) (← conjunction self)

/-- `name := expression`, if it stands here. -/
def assignment? : Reader (Option Term) := do
  if ← Reader.atNameThen ":=" then
    Reader.advance; Reader.advance
    let _ ← self .expression
    return some (.other .assignment)
  else return none

/-- Whether a term is on the level of operators, as far as can be told without its parentheses. -/
def isOperand : Term → Bool
  | .logical .. | .compare .. | .conditional .. | .unary .not _ | .other .lambda => false
  | _ => true

/-- An assignment to something that is no name here; the fault is on the line where that starts. -/
def misplacedAssignment (line : Nat) (t : Term) : Reader Unit := fun rest =>
  let sign := Reader.token? rest
  if sign == some (.symbol ":=") || (sign == some (.symbol "=") && isOperand t) then
    if (self .expression rest.tail).isOk then .error ⟨rest, some line⟩
    else Reader.recheck (self .expression) rest.tail rest
  else .ok ((), rest)

/-- An expression or `name := expression`. -/
def named : Reader Term := do
  match ← assignment? self with
  | some t => return t
  | none =>
      let line ← Reader.line
      let t ← self .expression
      misplacedAssignment self line t
      return t

/-- `*` before something that is unpacked. -/
def starred (operand : Reader Term) : Reader Term := do
  Reader.symbol "*"
  return .starred (← operand)

def starOr (item : Reader Term) : Reader Term := do
  if ← Reader.atSymbol "*" then starred (bitwiseOr self) else item

/-- One item of a display between brackets. -/
def displayItem : Reader Term := starOr self (named self)

/-- Items with commas between; a comma makes a tuple. -/
def tupleOr (item : Reader Term) : Reader Term := do
  let (items, comma) ← Reader.commaList startsItem item
  match items, comma with
  | [t], false => return t
  | ts, _ => return .tuple ts

/-- What `for` and `del` name, on the level of operators. -/
def targets : Reader Term := do
  let line ← Reader.line
  let t ← tupleOr (starOr self (bitwiseOr self))
  if t.isTarget then return t else Reader.stopAt line

/-- `yield`, which may also stand alone. -/
def yielded : Reader Term := do
  Reader.word "yield"
  if ← Reader.optionalWord "from" then
    let _ ← self .expression
    return .other .yieldFrom
  else
    if startsItem (← Reader.next?) then
      let _ ← self .listed
    return .other .yieldValue

/-- Whether the clauses of a comprehension start here. -/
def atClause : Reader Bool := do
  return (← Reader.atWord "for") || (← Reader.atWord "async")

def conditions : Reader Unit := do
  Reader.loop (fun () => do
    if ← Reader.optionalWord "if" then
      let _ ← disjunction self
      return some ()
    else return none) ()

def clause : Reader Unit := do
  let _ ← Reader.optionalWord "async"
  Reader.word "for"
  let start ← get
  let _ ← targets self
  if !(← Reader.atWord "in") then Reader.recheck (self .listed) start
  Reader.word "in"
  let _ ← disjunction self
  conditions self

/-- The clauses of a comprehension, one at least. -/
def clauses : Reader Unit := do
  clause self
  Reader.loop (fun () => do
    if ← atClause then clause self; return some () else return none) ()

/-- A sequence between brackets after its first item. -/
def restOfDisplay (closing : String) (first : Term) (comprehension : Form)
    (display : List Term → Bool → Term) : Reader Term := do
  if (← atClause) && !first.isStarred then
    clauses self
    Reader.symbol closing
    return .other comprehension
  else
    let (items, comma) ← Reader.moreItems startsItem (displayItem self) (← get).length [first]
    Reader.symbol closing
    return display items comma

/-- What follows an opening parenthesis. -/
def parenthesized : Reader Term := do
  if ← Reader.optionalSymbol ")" then return .tuple []
  else if ← Reader.atWord "yield" then
    let t ← yielded self
    Reader.symbol ")"
    return t
  else
    let line ← Reader.line
    let first ← displayItem self
    if first.isStarred && (← Reader.atSymbol ")") then Reader.stopAt line
    else
      restOfDisplay self ")" first .generator (fun items comma =>
        match items, comma with
        | [t], false => t
        | ts, _ => .tuple ts)

/-- What follows an opening square bracket. -/
def bracketed : Reader Term := do
  if ← Reader.optionalSymbol "]" then return .list []
  else
    restOfDisplay self "]" (← displayItem self) .listComprehension (fun items _ => .list items)

/-- An entry of a dictionary. -/
def dictEntry : Reader Unit := do
  if ← Reader.optionalSymbol "**" then
    let _ ← bitwiseOr self
  else
    let _ ← self .expression
    Reader.symbol ":"
    let _ ← self .expression

def restOfDict : Reader Term := do
  let startsEntry (t : Option Token) : Bool := starts t || t == some (.symbol "**")
  let _ ← Reader.moreItems startsEntry (dictEntry self) (← get).length [()]
  Reader.symbol "\x7d"
  return .other .dict

/-- What follows an opening brace. -/
def braced : Reader Term := do
  if ← Reader.optionalSymbol "\x7d" then return .other .dict
  else if ← Reader.atSymbol "**" then
    dictEntry self
    restOfDict self
  else
    let assigns ← Reader.atNameThen ":="
    let first ← displayItem self
    if (← Reader.atSymbol ":") && !first.isStarred && !assigns then
      Reader.advance
      let _ ← self .expression
      if ← atClause then
        clauses self
        Reader.symbol "\x7d"
        return .other .dictComprehension
      else restOfDict self
    else
      restOfDisplay self "\x7d" first .setComprehension (fun _ _ => .other .set)

/-- Reads an expression that stands inside a formatted text on this line. -/
def readEnclosed (line : Nat) (e : List Char) : Reader Unit := fun rest =>
  match self .listed (scan ('(' :: e ++ [')'])).lexemes with
  | .ok _ => .ok ((), rest)
  | .error _ => .error ⟨rest, some line⟩

/-- The text of literals that stand side by side. -/
def textOf (line : Nat) (qs : List Quote) : Reader Term := do
  let after ← Reader.line
  if qs.any (·.bytes) then
    if qs.all (fun q => q.bytes && Literal.isBytes q.raw q.body) then return .constant .bytes
    else Reader.stopAt after
  else
    for q in qs do
      if q.formatted then
        match formattedExpressions? q with
        | some es => for e in es do readEnclosed self line e
        | none => Reader.stopAt after
    if qs.any (·.formatted) then
      if (qs.filter (!·.formatted)).all (fun q => (Literal.text? q).isSome) then
        return .other .joinedText
      else Reader.stopAt after
    else
      match qs.mapM Literal.text? with
      | some texts => return .constant (.text (String.ofList texts.flatten))
      | none => Reader.stopAt after

/-- Text literals that stand side by side. -/
def quotes : Reader (List Quote) := do
  Reader.loop (fun qs => do
    match ← Reader.next? with
    | some (.quote q) => Reader.advance; return some (qs ++ [q])
    | _ => return none) []

/-- Names, literals and whatever stands between brackets. -/
def atom : Reader Term := do
  let line ← Reader.line
  match ← Reader.next? with
  | some (.word "None") => Reader.advance; return .constant .none
  | some (.word "True") => Reader.advance; return .constant (.bool true)
  | some (.word "False") => Reader.advance; return .constant (.bool false)
  | some (.number c) => Reader.advance; return .constant c
  | some .overlong => Reader.stopAt line
  | some (.quote _) => textOf self line (← quotes)
  | some (.symbol "...") => Reader.advance; return .constant .ellipsis
  | some (.symbol "(") => Reader.advance; parenthesized self
  | some (.symbol "[") => Reader.advance; bracketed self
  | some (.symbol "\x7b") => Reader.advance; braced self
  | _ => return .name (← Reader.name)

/-- What the arguments of a call have had so far: the values by position, and whether an argument
by name or an unpacked mapping came before. -/
structure Arguments where
  values : List Term
  named : Bool
  unpacked : Bool
  closed : Bool

/-- One argument. In a call it can be a generator, which has to be the only one. -/
def argument (call : Bool) (a : Arguments) : Reader Arguments := do
  if ← Reader.optionalSymbol "**" then
    let _ ← self .expression
    return { a with unpacked := true }
  else if ← Reader.optionalSymbol "*" then
    let t ← self .expression
    if a.unpacked then Reader.stop
    else return { a with values := a.values ++ [.starred t] }
  else if ← Reader.atNameThen "=" then
    Reader.advance; Reader.advance
    let _ ← self .expression
    return { a with named := true }
  else
    let line ← Reader.line
    let t ← (do
      match ← assignment? self with
      | some t => return t
      | none => self .expression)
    if ← Reader.atSymbol "=" then Reader.stopAt line
    else if a.named || a.unpacked then Reader.stop
    else if call && (← atClause) then
      clauses self
      if a.values.isEmpty && !(← Reader.atSymbol ",") then
        return { a with values := [.other .generator], closed := true }
      else Reader.stopAt line
    else return { a with values := a.values ++ [t] }

/-- Whether an argument can start with this token. -/
def startsArgument (t : Option Token) : Bool := startsItem t || t == some (.symbol "**")

/-- The arguments of a call or of a class after the opening parenthesis: the values by position. -/
def arguments (call : Bool) : Reader (List Term) := do
  let start : Arguments := ⟨[], false, false, false⟩
  if !startsArgument (← Reader.next?) then
    Reader.symbol ")"
    return []
  else
    let a ← Reader.loop (fun (a : Arguments) => do
      if a.closed then return none
      else if ← Reader.optionalSymbol "," then
        if startsArgument (← Reader.next?) then return some (← argument self call a)
        else return some { a with closed := true }
      else return none) (← argument self call start)
    Reader.symbol ")"
    return a.values

/-- Whether a bound of a slice is left out here. -/
def endsSlice (t : Option Token) : Bool :=
  t == some (.symbol ":") || t == some (.symbol ",") || t == some (.symbol "]")

/-- The bounds of a slice after its first colon. -/
def restOfSlice : Reader Term := do
  if !endsSlice (← Reader.next?) then let _ ← self .expression
  if ← Reader.optionalSymbol ":" then
    if !endsSlice (← Reader.next?) then let _ ← self .expression
  return .other .slice

def sliceItem : Reader Term := do
  if ← Reader.atSymbol "*" then starred (self .expression)
  else if ← Reader.optionalSymbol ":" then restOfSlice self
  else
    let t ← named self
    if ← Reader.optionalSymbol ":" then restOfSlice self else return t

/-- What stands between the brackets of a subscript; a comma or a star makes a tuple. -/
def slices : Reader Term := do
  let startsSlice (t : Option Token) : Bool := startsItem t || t == some (.symbol ":")
  let (items, comma) ← Reader.commaList startsSlice (sliceItem self)
  match items, comma with
  | [t], false => return if t.isStarred then .tuple [t] else t
  | ts, _ => return .tuple ts

/-- Attributes, calls and subscripts after an atom. -/
def primary : Reader Term := do
  Reader.loop (fun t => do
    match ← Reader.next? with
    | some (.symbol ".") => Reader.advance; return some (.access t (← Reader.name))
    | some (.symbol "(") => Reader.advance; let _ ← arguments self true; return some (.call t)
    | some (.symbol "[") =>
        Reader.advance
        let index ← slices self
        Reader.symbol "]"
        return some (.subscript t index)
    | _ => return none) (← atom self)

/-- A primary, perhaps awaited, perhaps to a power. -/
def power : Reader Term := do
  let base ←
    if ← Reader.optionalWord "await" then
      let _ ← primary self
      pure (.other .await)
    else primary self
  if ← Reader.optionalSymbol "**" then return .arithmetic false base (← self .factor)
  else return base

def factor : Reader Term := do
  match ← Reader.next? with
  | some (.symbol s) =>
      match prefixes.lookup s with
      | some op => Reader.advance; return .unary op (← self .factor)
      | none => power self
  | _ => power self

def inversion : Reader Term := do
  if ← Reader.optionalWord "not" then return .unary .not (← self .inversion)
  else comparison self

/-- Parameters read so far. -/
structure Parameters where
  count : Nat
  slash : Bool
  star : Bool
  /-- A bare star, which a parameter has to follow. -/
  bare : Bool
  defaults : Bool
  closed : Bool

/-- A hint after a colon, where parameters can have one. -/
def parameterHint (hinted : Bool) (hint : Reader Term) : Reader Unit := do
  if hinted then
    if ← Reader.optionalSymbol ":" then let _ ← hint

/-- One parameter of a function; `hinted` where parameters can have hints. -/
def parameter (hinted : Bool) (p : Parameters) : Reader Parameters := do
  if ← Reader.atSymbol "/" then
    if p.slash || p.star || p.count = 0 then Reader.stop
    else Reader.advance; return { p with slash := true }
  else if ← Reader.atSymbol "**" then
    if p.bare then Reader.stop
    else
      Reader.advance
      let _ ← Reader.name
      parameterHint hinted (self .expression)
      return { p with closed := true }
  else if ← Reader.atSymbol "*" then
    if p.star then Reader.stop
    else
      Reader.advance
      if ← Reader.atSymbol "," then return { p with star := true, bare := true }
      else
        let _ ← Reader.name
        parameterHint hinted (starOr self (self .expression))
        return { p with star := true }
  else
    let _ ← Reader.name
    parameterHint hinted (self .expression)
    if ← Reader.optionalSymbol "=" then
      let _ ← self .expression
      return { p with count := p.count + 1, bare := false, defaults := true }
    else if p.defaults && !p.star then Reader.stop
    else return { p with count := p.count + 1, bare := false }

/-- The parameters of a function up to the symbol that ends them. -/
def parameters (hinted : Bool) (closing : String) : Reader Unit := do
  if ← Reader.atSymbol closing then return ()
  else
    let p ← Reader.loop (fun (p : Parameters × Bool) => do
      if !(← Reader.atSymbol ",") || p.2 then return none
      else
        Reader.advance
        if ← Reader.atSymbol closing then return some (p.1, true)
        else if p.1.closed then Reader.stop
        else return some (← parameter self hinted p.1, false))
      (← parameter self hinted ⟨0, false, false, false, false, false⟩, false)
    if p.1.bare then Reader.stop else return ()

def function : Reader Term := do
  Reader.word "lambda"
  parameters self false ":"
  Reader.symbol ":"
  let _ ← self .expression
  return .other .lambda

/-- Words that can be names and also start statements or patterns, and their beginnings. -/
def isSoft (t : Option Token) : Bool :=
  match t with
  | some (.word s) => ["_", "case", "match"].any (fun w => s.toList.isPrefixOf w.toList)
  | _ => false

def isQuote (t : Option Token) : Bool := match t with | some (.quote _) => true | _ => false

/-- The start of an expression: an operand after its signs, or a function. -/
def operand : Reader Unit := do
  Reader.loop (fun () => do
    match ← Reader.next? with
    | some (.word "not") | some (.word "await") => Reader.advance; return some ()
    | some (.symbol s) =>
        if (prefixes.lookup s).isSome then Reader.advance; return some () else return none
    | _ => return none) ()
  if ← Reader.atWord "lambda" then
    Reader.advance
    parameters self false ":"
    Reader.symbol ":"
  else let _ ← atom self

/-- Whether the expression that starts at `first` may lack a comma after it: not where it could be a
text with unknown letters before it, or the start of a statement. -/
def mayLackComma (first : List Lexeme) : Bool :=
  let named := (Reader.name? (Reader.token? first)).isSome
  !isSoft (Reader.token? first) && !(named && isQuote (Reader.token? first.tail))

/-- What follows a single name is read for faults of its own. -/
def faultsAfterName (first : List Lexeme) : Reader Unit := fun rest =>
  if (Reader.name? (Reader.token? first)).isSome && rest.length + 1 == first.length then
    Reader.recheck (self .expression) rest rest
  else .ok ((), rest)

/-- What cannot be read as an operand is read for faults of its own if it is a text or stands
between braces. -/
def faultsOfOperand (e : Stop) : Reader Unit := fun rest =>
  if e.rest.isEmpty then .error e
  else if isQuote (Reader.token? rest) || Reader.token? rest == some (.symbol "\x7b") then
    Reader.recheck (operand self) rest rest
  else .ok ((), rest)

/-- Inside brackets an expression right after another one lacks a comma between; the fault is then
where the first one starts. `alone` reads expressions whatever follows them. -/
def missingComma (alone : Goal → Reader Term) (first : List Lexeme) : Reader Unit := fun rest =>
  if !starts (Reader.token? rest) then .ok ((), rest)
  else if !mayLackComma first then faultsAfterName self first rest
  else
    match operand alone rest with
    | .error e => faultsOfOperand self e rest
    | .ok (_, rest') =>
        let reached :=
          match alone .expression rest with
          | .ok (_, rest') => rest'
          | .error e => e.rest
        let last := (rest.take (rest.length - rest'.length)).getLast?
        if reached.isEmpty then .error ⟨reached, none⟩
        else if last.any (fun l => l.depth ≠ 0) then
          .error ⟨reached, first.head?.map Lexeme.line⟩
        else .ok ((), rest)

/-- What stands after `if`. An operand alone would do, and then `else` is missing; that fault is
where the conditional starts, on this line. -/
def tested (line : Nat) : Reader Term := fun rest =>
  match disjunction self rest with
  | .ok r => .ok r
  | .error e =>
      let function := Reader.token? rest == some (.word "lambda")
      if e.line.isNone && !function && (operand self rest).isOk then .error ⟨e.rest, some line⟩
      else .error e

/-- A conditional expression after its value, from the word `if` on. -/
def restOfConditional (line : Nat) (value : Term) : Reader Term := do
  Reader.word "if"
  let test ← tested self line
  if ← Reader.optionalWord "else" then return .conditional test value (← self .expression)
  else if ← Reader.atSymbol ":" then Reader.stop
  else Reader.stopAt line

/-- A conditional expression, or one without a condition. Where `alone?` is given it reads
expressions whatever follows them, and no other expression may follow this one. -/
def conditional (alone? : Option (Goal → Reader Term)) : Reader Term := do
  let line ← Reader.line
  let first ← get
  let value ← disjunction self
  let conditioned ← Reader.atWord "if"
  match alone?, conditioned with
  | some _, true => restOfConditional self line value
  | none, true => Reader.orElse (restOfConditional self line value) (return value)
  | some alone, false => missingComma self alone first; return value
  | none, false => return value

def expression (alone? : Option (Goal → Reader Term)) : Reader Term := do
  if ← Reader.atWord "lambda" then function self else conditional self alone?

/-- One item on the right of an assignment. -/
def listedItem : Reader Term := starOr self (self .expression)

/-- Expressions with commas between, which make a tuple. -/
def listed : Reader Term := tupleOr (listedItem self)

end

/-- One step of reading towards a goal. -/
def step (self : Goal → Reader Term) (alone? : Option (Goal → Reader Term)) :
    Goal → Reader Term
  | .expression => expression self alone?
  | .inversion => inversion self
  | .factor => factor self
  | .listed => listed self

/-- Reads towards a goal, whatever follows. -/
def readAlone : Nat → Goal → Reader Term
  | 0, _ => Reader.stop
  | fuel + 1, goal => step (readAlone fuel) none goal

/-- Reads towards a goal. At most three steps take no token in a row, and a step into a formatted
text takes the characters around it, so three times the length of the source is enough fuel. -/
def read : Nat → Goal → Reader Term
  | 0, _ => Reader.stop
  | fuel + 1, goal => step (read fuel) (some (readAlone fuel)) goal

end Expression

end ViewModel.Source
