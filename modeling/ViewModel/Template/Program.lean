import ViewModel.Template.Render
import ViewModel.Text.Quoted

/-!
Templates as programs: the body of every `each` becomes a function of its own, so that loops never
stand inside loops. A program can be written as text and can be run.
-/

namespace ViewModel

/-- Statements of a program. `scopes` is the number of the variable that holds the scopes, and
`loop` calls a function once for each item. -/
inductive Program.Statement
  | appendText (s : String)
  | appendValue (scopes : Nat) (path : List String)
  | test (negated : Bool) (scopes : Nat) (path : List String) (body : List Program.Statement)
  | loop (function : Nat) (scopes : Nat) (path : List String)
  deriving Inhabited

/-- The function with a number takes the variable of that number. -/
structure Program.Function where
  number : Nat
  body : List Program.Statement
  deriving Inhabited

/-- Functions in the order in which they are defined, and the main body, whose variable has the
number zero. -/
structure Program where
  functions : List Program.Function
  main : List Program.Statement
  deriving Inhabited

namespace Program

/-- What is made of some nodes: statements, the functions they need, and the last number used. -/
structure Compiled where
  statements : List Statement
  functions : List Function
  last : Nat

mutual

/-- Compiles a node whose scopes are in variable `scopes`, after `last` functions. -/
def compileNode (scopes last : Nat) : Node → Compiled
  | .text s => ⟨[.appendText s], [], last⟩
  | .slot path _ => ⟨[.appendValue scopes path], [], last⟩
  | .block .whenTrue path _ body =>
      let c := compileNodes scopes last body
      { c with statements := [.test false scopes path c.statements] }
  | .block .whenFalse path _ body =>
      let c := compileNodes scopes last body
      { c with statements := [.test true scopes path c.statements] }
  | .block .each path _ body =>
      let n := last + 1
      let c := compileNodes n n body
      ⟨[.loop n scopes path], c.functions ++ [⟨n, c.statements⟩], c.last⟩

def compileNodes (scopes last : Nat) : List Node → Compiled
  | [] => ⟨[], [], last⟩
  | n :: rest =>
      let c := compileNode scopes last n
      let d := compileNodes scopes c.last rest
      ⟨c.statements ++ d.statements, c.functions ++ d.functions, d.last⟩

end

/-- The program of a template. -/
def ofTemplate (t : Template) : Program :=
  let c := compileNodes 0 0 t.nodes
  ⟨c.functions, c.statements⟩

/-! Programs as text. -/

def indented (depth : Nat) (line : String) : String :=
  String.ofList (List.replicate (4 * depth) ' ') ++ line

/-- A path as a row of quoted segments. -/
def pathText (path : List String) : String :=
  match path with
  | [s] => "(" ++ Text.quoted s ++ ",)"
  | _ => "(" ++ String.intercalate ", " (path.map Text.quoted) ++ ")"

def lookupText (scopes : Nat) (path : List String) : String :=
  "lookup(scopes" ++ natText scopes ++ ", " ++ pathText path ++ ")"

mutual

def statementLines (depth : Nat) : Statement → List String
  | .appendText s => [indented depth ("_append(" ++ Text.quoted s ++ ")")]
  | .appendValue scopes path =>
      [indented depth ("_append(escape_html(display_value(" ++ lookupText scopes path ++ ")))")]
  | .test negated scopes path body =>
      indented depth ("if " ++ (if negated then "not " else "") ++ "is_truthy("
          ++ lookupText scopes path ++ "):")
        :: (if body.isEmpty then [indented (depth + 1) "pass"] else bodyLines (depth + 1) body)
  | .loop n scopes path =>
      [indented depth ("for item" ++ natText n ++ " in iterate(" ++ lookupText scopes path ++ "):"),
        indented (depth + 1) ("each" ++ natText n ++ "(scopes" ++ natText scopes ++ " + (item"
          ++ natText n ++ ",), _append)")]

def bodyLines (depth : Nat) : List Statement → List String
  | [] => []
  | s :: rest => statementLines depth s ++ bodyLines depth rest

end

def functionLines (f : Function) : List String :=
  ("def each" ++ natText f.number ++ "(scopes" ++ natText f.number ++ ", _append):")
    :: (if f.body.isEmpty then [indented 1 "pass"] else bodyLines 1 f.body)

def mainLines (main : List Statement) : List String :=
  ["def render(data):", indented 1 "scopes0 = (root_scope(data),)", indented 1 "out = []",
    indented 1 "_append = out.append"] ++ bodyLines 1 main ++ [indented 1 "return ''.join(out)"]

/-- The text of a program, with an empty line between functions. -/
def text (p : Program) : String :=
  String.intercalate "\n"
    ((p.functions.map functionLines ++ [mainLines p.main]).map
      (fun ls => String.intercalate "\n" ls ++ "\n"))

/-- The name that the program of a template is compiled under. -/
def fileName (t : Template) : String :=
  "<template " ++ (match t.source with
    | none | some "" => "?"
    | some s => s) ++ ">"

/-- Compiles the program of a template; no name with a null character is accepted. The text of a
program has none, since literals are quoted. -/
def compile? (t : Template) : Option Program :=
  if (fileName t).toList.contains '\x00' then none else some (ofTemplate t)

theorem compile?_eq_some {t : Template} {p : Program} :
    compile? t = some p ↔ '\x00' ∉ (fileName t).toList ∧ ofTemplate t = p := by
  simp [compile?]

/-! Programs at work. -/

mutual

/-- What a statement appends; none if it uses a variable that it has not. `call` runs a function
by its number. -/
def runStatement (call : Nat → List Value → Option String) (variableNumber : Nat)
    (scopes : List Value) : Statement → Option String
  | .appendText s => some s
  | .appendValue n path =>
      if n = variableNumber then some (Markup.escape (Template.lookup scopes path).display)
      else none
  | .test negated n path body =>
      if n = variableNumber then
        if (Template.lookup scopes path).isTruthy != negated then
          runBody call variableNumber scopes body
        else some ""
      else none
  | .loop f n path =>
      if n = variableNumber then
        ((Template.lookup scopes path).items.mapM (fun item => call f (item :: scopes))).map
          String.join
      else none

def runBody (call : Nat → List Value → Option String) (variableNumber : Nat)
    (scopes : List Value) : List Statement → Option String
  | [] => some ""
  | s :: rest => do
      let first ← runStatement call variableNumber scopes s
      let more ← runBody call variableNumber scopes rest
      return first ++ more

end

/-- Runs a function by its number; the last function of that number counts. At most `depth` calls
may be under way. -/
def call (p : Program) : Nat → Nat → List Value → Option String
  | 0, _, _ => none
  | depth + 1, n, scopes =>
      match p.functions.reverse.find? (fun f => f.number == n) with
      | some f => runBody (p.call depth) f.number scopes f.body
      | none => none

/-- The text that a program makes of some data. -/
def run (p : Program) (data : Value) : Option String :=
  runBody (p.call p.functions.length) 0 [data] p.main

end Program

end ViewModel
