import ViewModel.Source.Token
import ViewModel.Text.Normalize

/-!
Readers of tokens. A reader takes tokens from the front, or says where it had to stop.
-/

namespace ViewModel.Source

/-- `rest` is what was left where reading stopped. Where `line` is given the fault is on that line. -/
structure Stop where
  rest : List Lexeme
  line : Option Nat
  deriving Inhabited

abbrev Reader (α : Type) := StateT (List Lexeme) (Except Stop) α

namespace Reader

variable {α : Type}

/-- Stops before the next token. -/
def stop : Reader α := fun rest => .error ⟨rest, none⟩

def stopAt (line : Nat) : Reader α := fun rest => .error ⟨rest, some line⟩

def token? (ls : List Lexeme) : Option Token := ls.head?.map Lexeme.token

def next? : Reader (Option Token) := do return token? (← get)

/-- The line of the next token. -/
def line : Reader Nat := do return ((← get).head?.map Lexeme.line).getD 0

/-- Stops before the next token, whatever else might be tried. -/
def stopHere : Reader α := do stopAt (← line)

def advance : Reader Unit := modify List.tail

/-- Tries one way and then the other. Of two failures the first that names a line counts, or else
the one further on. -/
def orElse (p q : Reader α) : Reader α := fun ls =>
  match p ls with
  | .ok r => .ok r
  | .error e =>
      match q ls with
      | .ok r => .ok r
      | .error e' =>
          let second := e'.line.isSome || e'.rest.length ≤ e.rest.length
          .error (if e.line.isNone && second then e' else e)

/-- Reads from `start` for faults that name a line or lie beyond the tokens, and for nothing else. -/
def recheck (p : Reader α) (start : List Lexeme) : Reader Unit := fun rest =>
  match p start with
  | .error e => if e.line.isSome || e.rest.isEmpty then .error e else .ok ((), rest)
  | .ok _ => .ok ((), rest)

/-- Whether the next token is this one. -/
def atToken (t : Token) : Reader Bool := do return (← next?) == some t

def atSymbol (s : String) : Reader Bool := atToken (.symbol s)

def atWord (s : String) : Reader Bool := atToken (.word s)

def token (t : Token) : Reader Unit := do
  if ← atToken t then advance else stop

/-- The start of an indented block, which has to come here. -/
def indent : Reader Unit := do
  if ← atToken .indent then advance else stopHere

def symbol (s : String) : Reader Unit := token (.symbol s)

def word (s : String) : Reader Unit := token (.word s)

/-- Takes the next token if it is this one, and says whether it was. -/
def optional (t : Token) : Reader Bool := do
  if ← atToken t then advance; return true
  else return false

def optionalSymbol (s : String) : Reader Bool := optional (.symbol s)

def optionalWord (s : String) : Reader Bool := optional (.word s)

def name? (t : Option Token) : Option String :=
  match t with
  | some (.word s) => if isReserved s then none else some s
  | _ => none

/-- A name, in its normal form. -/
def name : Reader String := do
  match name? (← next?) with
  | some s => advance; return Text.normalize s
  | none => stop

/-- Whether the next two tokens are a name and this symbol. -/
def atNameThen (s : String) : Reader Bool := do
  match ← get with
  | l :: l' :: _ => return (name? (some l.token)).isSome && l'.token == .symbol s
  | _ => return false

/-- Takes steps as long as they lead on, at most `fuel` of them. -/
def iterate (step : α → Reader (Option α)) : Nat → α → Reader α
  | 0, a => return a
  | fuel + 1, a => do
      match ← step a with
      | some b => iterate step fuel b
      | none => return a

/-- Takes steps as long as they lead on. Each takes a token, so the tokens bound their number. -/
def loop (step : α → Reader (Option α)) (a : α) : Reader α := do
  iterate step (← get).length a

/-- Further items, each after a comma and only where one can start; says also whether there was a
comma. -/
def moreItems (starts : Option Token → Bool) (item : Reader α) :
    Nat → List α → Reader (List α × Bool)
  | 0, items => return (items, false)
  | fuel + 1, items => do
      if ← optionalSymbol "," then
        if starts (← next?) then
          let (items, _) ← moreItems starts item fuel (items ++ [← item])
          return (items, true)
        else return (items, true)
      else return (items, false)

/-- One item or more with commas between, and perhaps a last comma. -/
def commaList (starts : Option Token → Bool) (item : Reader α) : Reader (List α × Bool) := do
  let first ← item
  moreItems starts item (← get).length [first]

end Reader

end ViewModel.Source
