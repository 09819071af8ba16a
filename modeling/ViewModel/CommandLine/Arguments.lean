import ViewModel.Page
import ViewModel.Target.ClassFile
import ViewModel.Text.Blank

/-!
The arguments of the command line. An option may be given by any start of its long name that fits
no other option, with its value behind it or after an equals sign; short options may be written
together. After two hyphens nothing is an option.
-/

namespace ViewModel.CommandLine

inductive Switch
  | help
  | version
  | verbose
  | target
  | space
  | manifest
  | pattern
  | workers
  | config
  | layout
  | state
  | templates
  | suffix
  | engine
  | output
  deriving DecidableEq

/-- The names of a switch, and whether a value belongs to it. -/
structure Flag where
  switch : Switch
  names : List String
  hasValue : Bool

/-- How the arguments end a run at once: they are wrong, or they ask for information. -/
inductive Stop
  | wrong
  | informed
  deriving DecidableEq

def generalFlags : List Flag :=
  [⟨.help, ["-h", "--help"], false⟩, ⟨.version, ["--version"], false⟩,
    ⟨.verbose, ["-v", "--verbose"], false⟩]

def compileFlags : List Flag :=
  [⟨.help, ["-h", "--help"], false⟩, ⟨.target, ["--target"], true⟩,
    ⟨.space, ["--namespace"], true⟩, ⟨.manifest, ["--manifest"], true⟩,
    ⟨.pattern, ["--pattern"], true⟩, ⟨.workers, ["--workers"], true⟩,
    ⟨.config, ["--config"], true⟩]

def renderFlags : List Flag :=
  [⟨.help, ["-h", "--help"], false⟩, ⟨.layout, ["--layout"], true⟩,
    ⟨.state, ["--state"], true⟩, ⟨.templates, ["--templates"], true⟩,
    ⟨.suffix, ["--suffix"], true⟩, ⟨.engine, ["--engine"], true⟩,
    ⟨.output, ["-o", "--output"], true⟩]

/-- What an argument is. A flag keeps the name that it was found by and what is attached to it, with
an equals sign in front where no value belongs; the first pair of hyphens is a separator. -/
inductive Word
  | plain (text : String)
  | separator
  | named (flag : Flag) (name : String) (attached : Option String)
  | unknown

def named? (flags : List Flag) (name : String) : Option Flag :=
  flags.find? (·.names.contains name)

/-- The text before the first equals sign and the one after it. -/
def cut? (s : String) : Option (String × String) :=
  let before := s.toList.takeWhile (· ≠ '=')
  match s.toList.drop before.length with
  | _ :: after => some (String.ofList before, String.ofList after)
  | [] => none

def isLong (name : String) : Bool := "--".toList.isPrefixOf name.toList

/-- The flags that an argument may be short for: those of which it is a start, or the one whose
short name it starts with. -/
def abbreviated (flags : List Flag) (s : String) : List Word :=
  let starting (lead : String) (attached : Option String) : List Word :=
    flags.flatMap (fun f =>
      (f.names.filter (fun n => lead.toList.isPrefixOf n.toList)).map (.named f · attached))
  if isLong s then
    match cut? s with
    | some (lead, value) => starting lead (some value)
    | none => starting s none
  else
    let short := String.ofList (s.toList.take 2)
    match named? flags short with
    | some f => [.named f short (some (String.ofList (s.toList.drop 2)))]
    | none => starting s none

/-- Whether an argument is a negative number. -/
def isNegativeNumber (cs : List Char) : Bool :=
  match cs with
  | '-' :: rest =>
      let whole := rest.takeWhile Char.isDigit
      match rest.drop whole.length with
      | [] => !whole.isEmpty
      | '.' :: places => !places.isEmpty && places.all Char.isDigit
      | _ => false
  | _ => false

def word (flags : List Flag) (s : String) : Except Stop Word :=
  if s.toList.head? ≠ some '-' then .ok (.plain s)
  else
    match named? flags s with
    | some f => .ok (.named f s none)
    | none =>
        if s = "-" then .ok (.plain s)
        else
          let exact := (cut? s).bind (fun (name, value) =>
            (named? flags name).map (fun f =>
              Word.named f name (some (if f.hasValue then value else "=" ++ value))))
          match exact, abbreviated flags s with
          | some w, _ => .ok w
          | none, _ :: _ :: _ => .error .wrong
          | none, [w] => .ok w
          | none, [] =>
              if isNegativeNumber s.toList || s.toList.contains ' ' then .ok (.plain s)
              else .ok .unknown

def words (flags : List Flag) : List String → Except Stop (List Word)
  | [] => .ok []
  | s :: rest =>
      if s = "--" then .ok (.separator :: rest.map .plain)
      else return (← word flags s) :: (← words flags rest)

/-- Switches with their values, whether something was found that belongs to nothing, and what is
left. -/
structure Found where
  values : List (Switch × String)
  hasStray : Bool
  rest : List Word

/-- The switches that a named flag stands for. Letters attached to a short name are further short
names, of which the last may have a value. -/
def spread (flags : List Flag) : Nat → Flag → String → Option String → List Word →
    Except Stop Found
  | 0, _, _, _, _ => .error .wrong
  | fuel + 1, f, name, attached, rest =>
      match f.hasValue, attached, rest with
      | true, some value, _ => .ok ⟨[(f.switch, value)], false, rest⟩
      | true, none, .plain value :: rest => .ok ⟨[(f.switch, value)], false, rest⟩
      | true, none, _ => .error .wrong
      | false, none, _ => .ok ⟨[(f.switch, "")], false, rest⟩
      | false, some letters, _ =>
          match isLong name, letters.toList with
          | false, c :: more =>
              let next := String.ofList ['-', c]
              match named? flags next with
              | some g => do
                  let attached := if more.isEmpty then none else some (String.ofList more)
                  let found ← spread flags fuel g next attached rest
                  return { found with values := (f.switch, "") :: found.values }
              | none =>
                  if c = '-' ∨ c = '=' then .error .wrong
                  else .ok ⟨[(f.switch, "")], true, rest⟩
          | _, _ => .error .wrong

def wholeNumber? (s : String) : Option Int :=
  let (negative, unsigned) := takeSign ((Text.trim s.toList).map Text.plainDigit)
  match takeNumber unsigned with
  | (d :: ds, []) => some (Double.signed negative (Nat.ofDigitChars 10 (d :: ds) 0))
  | _ => none

/-- What a switch does at once: it may end the run, or refuse its value. -/
def check (s : Switch) (value : String) : Except Stop Unit :=
  let refuseUnless (b : Bool) : Except Stop Unit := if b then .ok () else .error .wrong
  match s with
  | .help | .version => .error .informed
  | .target => refuseUnless (Target.ofName? value).isSome
  | .engine => refuseUnless (Engine.ofName? value).isSome
  | .workers => refuseUnless (wholeNumber? value).isSome
  | _ => .ok ()

/-- What has been gathered from the arguments: values in order, up to two paths, and whether there
was something that belongs to nothing. -/
structure Gathered where
  values : List (Switch × String) := []
  paths : Option (Option String × Option String) := none
  hasStray : Bool := false

namespace Gathered

def all (g : Gathered) (s : Switch) : List String :=
  (g.values.filter (fun v => v.1 = s)).map Prod.snd

/-- The last value of a switch counts. -/
def last? (g : Gathered) (s : Switch) : Option String := (g.all s).getLast?

end Gathered

/-- One optional path, with a separator before it or after it. -/
def takePath (ws : List Word) : Option String × List Word :=
  let separator : List Word → List String × List Word
    | .separator :: rest => (["--"], rest)
    | ws => ([], ws)
  let (before, ws) := separator ws
  let (path, ws) := match ws with
    | .plain s :: rest => ([s], rest)
    | ws => ([], ws)
  let (after, ws) := separator ws
  (((before ++ path ++ after).erase "--").head?, ws)

/-- Goes through the arguments of a command. The paths stand together. -/
def gather (flags : List Flag) (takesPaths : Bool) : Nat → List Word → Gathered →
    Except Stop Gathered
  | 0, _, g => .ok g
  | _ + 1, [], g => .ok g
  | fuel + 1, w :: rest, g =>
      match w with
      | .named f name attached => do
          let letters := (attached.map String.length).getD 0
          let found ← spread flags (letters + 1) f name attached rest
          found.values.forM (fun v => check v.1 v.2)
          gather flags takesPaths fuel found.rest
            { g with values := g.values ++ found.values, hasStray := g.hasStray || found.hasStray }
      | .unknown => gather flags takesPaths fuel rest { g with hasStray := true }
      | _ =>
          if takesPaths && g.paths.isNone then
            let (first, rest) := takePath (w :: rest)
            let (second, rest) := takePath rest
            gather flags takesPaths fuel rest { g with paths := some (first, second) }
          else gather flags takesPaths fuel rest { g with hasStray := true }

structure CompileArguments where
  inputDir : Option String
  outputDir : Option String
  targets : Option (List String)
  space : Option String
  manifestFile : Option String
  pattern : Option String
  workers : Option Int
  config : Option String

structure RenderArguments where
  layout : String
  state : String
  templates : String
  suffix : String
  engine : Engine
  output : Option String

inductive Command
  | compile (a : CompileArguments)
  | render (a : RenderArguments)

def gatherFrom (flags : List Flag) (takesPaths : Bool) (arguments : List String) :
    Except Stop Gathered := do
  gather flags takesPaths arguments.length (← words flags arguments) {}

def compileArguments (arguments : List String) : Except Stop CompileArguments := do
  let g ← gatherFrom compileFlags true arguments
  if g.hasStray then throw .wrong
  let paths := g.paths.getD (none, none)
  let targets := g.all .target
  return {
    inputDir := paths.1
    outputDir := paths.2
    targets := if targets.isEmpty then none else some targets
    space := g.last? .space
    manifestFile := g.last? .manifest
    pattern := g.last? .pattern
    workers := (g.last? .workers).bind wholeNumber?
    config := g.last? .config }

def renderArguments (arguments : List String) : Except Stop RenderArguments := do
  let g ← gatherFrom renderFlags false arguments
  match g.hasStray, g.last? .layout, g.last? .state, g.last? .templates with
  | false, some layout, some state, some templates =>
      return {
        layout, state, templates
        suffix := (g.last? .suffix).getD ".hbs"
        engine := ((g.last? .engine).bind Engine.ofName?).getD .interpreted
        output := g.last? .output }
  | _, _, _, _ => throw .wrong

/-- The command that a name and the arguments behind it make. -/
def commandOf (name : String) (arguments : List String) : Except Stop Command :=
  if name = "compile" then (compileArguments arguments).map .compile
  else if name = "render" then (renderArguments arguments).map .render
  else .error .wrong

/-- Goes through the arguments before the name of a command; `arguments` are those that `ws` are. -/
def seekCommand : Nat → List String → List Word → Bool → Except Stop Command
  | 0, _, _, _ => .error .wrong
  | fuel + 1, arguments, ws, hasStray =>
      match ws with
      | .named f name attached :: rest => do
          let letters := (attached.map String.length).getD 0
          let found ← spread generalFlags (letters + 1) f name attached rest
          found.values.forM (fun v => check v.1 v.2)
          seekCommand fuel arguments.tail rest (hasStray || found.hasStray)
      | .unknown :: rest => seekCommand fuel arguments.tail rest true
      | .plain name :: _ => do
          let c ← commandOf name arguments.tail
          if hasStray then throw .wrong else return c
      | _ => .error .wrong

/-- The command that the arguments ask for. -/
def command (arguments : List String) : Except Stop Command := do
  seekCommand (arguments.length + 1) arguments (← words generalFlags arguments) false

end ViewModel.CommandLine
