import ViewModel.Source.Expression

/-!
Reading the patterns of `case` blocks. Nothing of them is kept.
-/

namespace ViewModel.Source

namespace Pattern

section

variable (self : Reader Unit)

def signed : Reader Unit := do
  let _ ← Reader.optionalSymbol "-"
  match ← Reader.next? with
  | some (.number _) => Reader.advance
  | _ => Reader.stop

/-- A number, perhaps with an imaginary part. -/
def number : Reader Unit := do
  signed
  if (← Reader.optionalSymbol "+") || (← Reader.optionalSymbol "-") then
    match ← Reader.next? with
    | some (.number .imaginary) => Reader.advance
    | _ => Reader.stop

def texts : Reader Unit := do
  Reader.loop (fun () => do
    match ← Reader.next? with
    | some (.quote _) => Reader.advance; return some ()
    | _ => return none) ()

def startsItem (t : Option Token) : Bool :=
  match t with
  | some (.word s) => !isReserved s || ["None", "True", "False"].contains s
  | some (.number _) | some (.quote _) => true
  | some (.symbol s) => ["(", "[", "\x7b", "-", "*"].contains s
  | _ => false

/-- A pattern, or a starred name that takes what is left. -/
def item : Reader Unit := do
  if ← Reader.optionalSymbol "*" then
    let _ ← Reader.name
  else self

/-- Patterns with commas between, up to the closing symbol. -/
def items (closing : String) : Reader Unit := do
  if startsItem (← Reader.next?) then
    let _ ← Reader.commaList startsItem (item self)
  Reader.symbol closing

/-- A key of a mapping pattern: a literal or a dotted name. -/
def key : Reader Unit := do
  match ← Reader.next? with
  | some (.quote _) => texts
  | some (.word "None") | some (.word "True") | some (.word "False") => Reader.advance
  | some (.word _) =>
      let _ ← Reader.name
      Reader.symbol "."
      let _ ← Reader.name
      Reader.loop (fun () => do
        if ← Reader.optionalSymbol "." then
          let _ ← Reader.name
          return some ()
        else return none) ()
  | _ => number

def entry : Reader Unit := do
  if ← Reader.optionalSymbol "**" then
    let _ ← Reader.name
  else
    key
    Reader.symbol ":"
    self

def mapping : Reader Unit := do
  let startsEntry (t : Option Token) : Bool :=
    (startsItem t && t != some (.symbol "*")) || t == some (.symbol "**")
  if startsEntry (← Reader.next?) then
    let _ ← Reader.commaList startsEntry (entry self)
  Reader.symbol "\x7d"

/-- An argument of a class pattern, and whether it goes by name. -/
def argument : Reader Bool := do
  if ← Reader.atNameThen "=" then
    Reader.advance; Reader.advance
    self
    return true
  else
    self
    return false

def arguments : Reader Unit := do
  let starts (t : Option Token) : Bool := startsItem t && t != some (.symbol "*")
  if starts (← Reader.next?) then
    let (named, _) ← Reader.commaList starts (argument self)
    if (named.dropWhile (!·)).all id then Reader.symbol ")" else Reader.stop
  else Reader.symbol ")"

/-- A name that takes the value, a dotted name, or a class pattern. -/
def named : Reader Unit := do
  let _ ← Reader.name
  Reader.loop (fun () => do
    if ← Reader.optionalSymbol "." then
      let _ ← Reader.name
      return some ()
    else return none) ()
  if ← Reader.optionalSymbol "(" then arguments self

def closed : Reader Unit := do
  match ← Reader.next? with
  | some (.quote _) => texts
  | some (.word "None") | some (.word "True") | some (.word "False") => Reader.advance
  | some (.word _) => named self
  | some (.symbol "(") => Reader.advance; items self ")"
  | some (.symbol "[") => Reader.advance; items self "]"
  | some (.symbol "\x7b") => Reader.advance; mapping self
  | _ => number

/-- Closed patterns with `|` between, perhaps with a name for the value. -/
def pattern : Reader Unit := do
  closed self
  Reader.loop (fun () => do
    if ← Reader.optionalSymbol "|" then closed self; return some () else return none) ()
  if ← Reader.optionalWord "as" then
    let name ← Reader.name
    if name = "_" then Reader.stop

end

/-- Reads a pattern; each one inside another takes a token first. -/
def read : Nat → Reader Unit
  | 0 => Reader.stop
  | fuel + 1 => pattern (read fuel)

/-- The patterns of a `case`. -/
def listed (fuel : Nat) : Reader Unit := do
  let _ ← Reader.commaList startsItem (item (read fuel))

end Pattern

end ViewModel.Source
