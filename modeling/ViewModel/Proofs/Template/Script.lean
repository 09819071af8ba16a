import ViewModel.Snapshot
import ViewModel.Template.Program

/-!
The text of a program as the script that it is: functions with parameters, assignments, tests,
loops, and calls by name. Running a script keeps variables by name and collects output in a list;
a function is looked up when it is called.
-/

namespace ViewModel

/-- What a template is rendered on. -/
inductive Template.Data
  | value (v : Value)
  | snapshot (s : Snapshot)
  | context (c : RenderContext)

/-- The outermost scope. -/
def Template.Data.scope : Template.Data → Value
  | value v => v
  | snapshot s => s.toValue
  | context c => c.scope

namespace Script

/-- Expressions. `texts` is a tuple of texts, and `single` a tuple of one value. -/
inductive Term
  | var (x : String)
  | text (s : String)
  | texts (ss : List String)
  | single (item : Term)
  | sum (left right : Term)
  | member (object : Term) (name : String)
  | call (function : String) (argument : Term)
  | call₂ (function : String) (first second : Term)
  | method (object : Term) (name : String) (argument : Term)
  deriving Inhabited

/-- Statements. `effect` is a call that stands alone. -/
inductive Statement
  | pass
  | assign (x : String) (t : Term)
  | newList (x : String)
  | effect (t : Term)
  | test (negated : Bool) (t : Term) (body : List Statement)
  | loop (x : String) (t : Term) (body : List Statement)
  deriving Inhabited

/-- `result` is what the function returns at its end. -/
structure Function where
  name : String
  parameters : List String
  body : List Statement
  result : Option Term := none
  deriving Inhabited

end Script

/-- A script defines functions; of two that have one name the later counts. -/
abbrev Script := List Script.Function

namespace Script

/-! The text of a script. -/

def Term.write : Term → String
  | var x => x
  | text s => Text.quoted s
  | texts ss => Program.pathText ss
  | single item => "(" ++ item.write ++ ",)"
  | sum left right => left.write ++ " + " ++ right.write
  | member object name => object.write ++ "." ++ name
  | call function argument => function ++ "(" ++ argument.write ++ ")"
  | call₂ function first second => function ++ "(" ++ first.write ++ ", " ++ second.write ++ ")"
  | method object name argument => object.write ++ "." ++ name ++ "(" ++ argument.write ++ ")"

mutual

def Statement.lines (depth : Nat) : Statement → List String
  | .pass => [Program.indented depth "pass"]
  | .assign x t => [Program.indented depth (x ++ " = " ++ t.write)]
  | .newList x => [Program.indented depth (x ++ " = []")]
  | .effect t => [Program.indented depth t.write]
  | .test negated t body =>
      Program.indented depth ("if " ++ (if negated then "not " else "") ++ t.write ++ ":")
        :: bodyLines (depth + 1) body
  | .loop x t body =>
      Program.indented depth ("for " ++ x ++ " in " ++ t.write ++ ":") :: bodyLines (depth + 1) body

def bodyLines (depth : Nat) : List Statement → List String
  | [] => []
  | s :: rest => s.lines depth ++ bodyLines depth rest

end

def Function.lines (f : Function) : List String :=
  ("def " ++ f.name ++ "(" ++ String.intercalate ", " f.parameters ++ "):") :: bodyLines 1 f.body
    ++ (f.result.map fun t => Program.indented 1 ("return " ++ t.write)).toList

/-- The text of a script, with an empty line between functions. -/
def text (script : Script) : String :=
  String.intercalate "\n" (script.map fun f => String.intercalate "\n" f.lines ++ "\n")

/-! Scripts at work. -/

/-- What variables hold. A script has one list, `list`, and `append` is its method. -/
inductive Datum
  | data (d : Template.Data)
  | value (v : Value)
  | tuple (items : List Value)
  | texts (ss : List String)
  | list
  | append

/-- The functions that every script may use; scopes are listed with the innermost last. -/
def helper : String → List Datum → Option Datum
  | "root_scope", [.data d] => some (.value d.scope)
  | "lookup", [.tuple scopes, .texts path] => some (.value (Template.lookup scopes.reverse path))
  | "iterate", [.value v] => some (.tuple v.items)
  | "is_truthy", [.value v] => some (.value (.bool v.isTruthy))
  | "display_value", [.value v] => some (.value (.text v.display))
  | "escape_html", [.value (.text s)] => some (.value (.text (Markup.escape s)))
  | _, _ => none

abbrev Variables := String → Option Datum

def Variables.set (locals : Variables) (x : String) (d : Datum) : Variables :=
  fun y => if y = x then some d else locals y

@[simp] theorem Variables.set_self (locals : Variables) (x : String) (d : Datum) :
    locals.set x d x = some d := if_pos rfl

theorem Variables.set_of_ne {x y : String} (h : y ≠ x) (locals : Variables) (d : Datum) :
    locals.set x d y = locals y := if_neg h

/-- Parameters with their arguments. -/
def Variables.ofArguments (parameters : List String) (arguments : List Datum) : Variables :=
  (parameters.zip arguments).foldl (fun locals p => locals.set p.1 p.2) fun _ => none

/-- The variables of the function that is running, and the list once it is made. -/
structure State where
  locals : Variables
  output : Option (List String)

def State.set (s : State) (x : String) (d : Datum) : State :=
  { s with locals := s.locals.set x d }

/-- The value of an expression; none if it has none. -/
def State.eval (s : State) : Term → Option Datum
  | .var x => s.locals x
  | .text t => some (.value (.text t))
  | .texts ss => some (.texts ss)
  | .single item => do
      match ← s.eval item with
      | .value v => return .tuple [v]
      | _ => none
  | .sum left right => do
      match ← s.eval left, ← s.eval right with
      | .tuple a, .tuple b => return .tuple (a ++ b)
      | _, _ => none
  | .member object name => do
      match ← s.eval object, name with
      | .list, "append" => return .append
      | _, _ => none
  | .call function argument => do helper function [← s.eval argument]
  | .call₂ function first second => do helper function [← s.eval first, ← s.eval second]
  | .method object name argument => do
      match ← s.eval object, name, ← s.eval argument with
      | .value (.text separator), "join", .list =>
          return .value (.text (String.intercalate separator (← s.output)))
      | _, _, _ => none

/-- Calls a function of the script: what it makes of the list. -/
abbrev Calls := String → List Datum → Option (List String) → Option (Option (List String))

/-- A call that stands alone: the method of the list, or a function of the script. -/
def State.call (s : State) (calls : Calls) (function : String) (arguments : List Datum) :
    Option State :=
  match s.locals function, arguments with
  | some .append, [.value (.text t)] => do return { s with output := some ((← s.output) ++ [t]) }
  | some _, _ => none
  | none, arguments => do return { s with output := ← calls function arguments s.output }

mutual

def exec (calls : Calls) (s : State) : Statement → Option State
  | .pass => some s
  | .assign x t => do return s.set x (← s.eval t)
  | .newList x => if s.output.isNone then some { s.set x .list with output := some [] } else none
  | .effect (.call function argument) => do s.call calls function [← s.eval argument]
  | .effect (.call₂ function first second) => do
      s.call calls function [← s.eval first, ← s.eval second]
  | .effect _ => none
  | .test negated t body => do
      match ← s.eval t with
      | .value (.bool b) => if b != negated then execBody calls s body else return s
      | _ => none
  | .loop x t body => do
      match ← s.eval t with
      | .tuple items => items.foldlM (fun s item => execBody calls (s.set x (.value item)) body) s
      | _ => none

def execBody (calls : Calls) (s : State) : List Statement → Option State
  | [] => some s
  | statement :: rest => do execBody calls (← exec calls s statement) rest

end

/-- Runs the body of a function on its arguments: what it returns, and the list. -/
def Function.call (f : Function) (calls : Calls) (arguments : List Datum)
    (output : Option (List String)) : Option (Option Datum × Option (List String)) := do
  if f.parameters.length ≠ arguments.length then none
  let s ← execBody calls ⟨.ofArguments f.parameters arguments, output⟩ f.body
  match f.result with
  | none => return (none, s.output)
  | some t => return (← s.eval t, s.output)

theorem Function.call_of_result {f : Function} {calls : Calls} {arguments : List Datum}
    {output : Option (List String)} {s : State} {t : Term} {d : Datum}
    (hlength : f.parameters.length = arguments.length) (hresult : f.result = some t)
    (hbody : execBody calls ⟨.ofArguments f.parameters arguments, output⟩ f.body = some s)
    (heval : s.eval t = some d) : f.call calls arguments output = some (some d, s.output) := by
  simp [Function.call, hlength, hresult, hbody, heval]

/-- Calls a function by its name. At most `depth` calls may be under way. -/
def call (script : Script) : Nat → String → List Datum → Option (List String) →
    Option (Option Datum × Option (List String))
  | 0, _, _, _ => none
  | depth + 1, name, arguments, output => do
      let f ← script.reverse.find? fun f => f.name == name
      f.call (fun name arguments output => (script.call depth name arguments output).map Prod.snd)
        arguments output

/-- What `render` returns for some data. -/
def run (script : Script) (data : Template.Data) : Option String := do
  match ← script.call script.length "render" [.data data] none with
  | (some (.value (.text s)), _) => return s
  | _ => none

end Script

/-! The script of a program. -/

namespace Program

def scopesName (n : Nat) : String := "scopes" ++ natText n

def itemName (n : Nat) : String := "item" ++ natText n

def functionName (n : Nat) : String := "each" ++ natText n

open Script (Term)

def lookupTerm (scopes : Nat) (path : List String) : Term :=
  .call₂ "lookup" (.var (scopesName scopes)) (.texts path)

/-- A body has at least one statement. -/
def suite : List Script.Statement → List Script.Statement
  | [] => [.pass]
  | body => body

mutual

def Statement.script : Statement → Script.Statement
  | .appendText s => .effect (.call "_append" (.text s))
  | .appendValue scopes path =>
      .effect (.call "_append"
        (.call "escape_html" (.call "display_value" (lookupTerm scopes path))))
  | .test negated scopes path body =>
      .test negated (.call "is_truthy" (lookupTerm scopes path)) (suite (scriptBody body))
  | .loop n scopes path =>
      .loop (itemName n) (.call "iterate" (lookupTerm scopes path))
        [.effect (.call₂ (functionName n)
          (.sum (.var (scopesName scopes)) (.single (.var (itemName n)))) (.var "_append"))]

def scriptBody : List Statement → List Script.Statement
  | [] => []
  | s :: rest => s.script :: scriptBody rest

end

def Function.script (f : Function) : Script.Function where
  name := functionName f.number
  parameters := [scopesName f.number, "_append"]
  body := suite (scriptBody f.body)

def mainScript (main : List Statement) : Script.Function where
  name := "render"
  parameters := ["data"]
  body :=
    .assign (scopesName 0) (.single (.call "root_scope" (.var "data"))) :: .newList "out"
      :: .assign "_append" (.member (.var "out") "append") :: scriptBody main
  result := some (.method (.text "") "join" (.var "out"))

def script (p : Program) : Script := p.functions.map Function.script ++ [mainScript p.main]

end Program

end ViewModel
