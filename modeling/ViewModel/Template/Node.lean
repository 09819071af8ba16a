import ViewModel.Number.Text

/-!
Templates without logic of their own: text, places for values, and blocks that show their body
once, or not at all, or once for each item.
-/

namespace ViewModel

inductive Helper
  | whenTrue
  | whenFalse
  | each
  deriving DecidableEq, Inhabited

namespace Helper

def name : Helper → String
  | whenTrue => "if"
  | whenFalse => "unless"
  | each => "each"

def all : List Helper := [whenTrue, whenFalse, each]

def ofName? (s : String) : Option Helper := all.find? (fun h => h.name == s)

theorem ofName?_name (h : Helper) : ofName? h.name = some h := by
  cases h <;> decide

end Helper

/-- A node of a template; `line` is where its tag starts. -/
inductive Node
  | text (s : String)
  | slot (path : List String) (line : Nat)
  | block (helper : Helper) (path : List String) (line : Nat) (body : List Node)
  deriving Inhabited

/-- `source` names the template in messages. -/
structure Template where
  nodes : List Node
  source : Option String := none
  deriving Inhabited

inductive TemplateError.Cause
  | path (raw : String)
  | innerThis (raw : String)
  | tripleBrace
  | emptyTag
  | blockTag (tag : String)
  | helper (name : String)
  | comment
  | partialTag
  | mark (c : Char)
  | elseTag
  | tooDeep
  | closesNothing (name : String)
  | mismatch (name : String) (opened : Helper) (openedOn : Nat)
  | unterminated
  | unclosed (opened : Helper)
  deriving DecidableEq

/-- Blocks nest at most this deep. -/
def maxBlockDepth : Nat := 64

/-- A tag as messages show it. -/
def shownTag (inner : String) : String := "'\x7b\x7b" ++ inner ++ "\x7d\x7d'"

def TemplateError.Cause.detail : TemplateError.Cause → String
  | path raw => "invalid path '" ++ raw ++ "'"
  | innerThis raw => "'this' may only start a path: '" ++ raw ++ "'"
  | tripleBrace => "triple-stash (unescaped output) is not supported"
  | emptyTag => "empty tag"
  | blockTag tag => "malformed block tag " ++ shownTag tag
  | helper name => "unknown block helper '" ++ name ++ "'"
  | comment => "comments are not supported"
  | partialTag => "partials are not supported"
  | mark c => "'" ++ String.singleton c ++ "' tags are not supported"
  | elseTag => "'else' is not supported"
  | tooDeep => "blocks nested deeper than " ++ natText maxBlockDepth ++ " levels"
  | closesNothing name => shownTag ("/" ++ name) ++ " closes nothing"
  | mismatch name opened line =>
      shownTag ("/" ++ name) ++ " does not match " ++ shownTag ("#" ++ opened.name)
        ++ " opened on line " ++ natText line
  | unterminated => "unterminated tag"
  | unclosed opened => "unclosed " ++ shownTag ("#" ++ opened.name)

/-- A cause and the line of the tag that has it. -/
structure TemplateError where
  cause : TemplateError.Cause
  line : Nat
  source : Option String
  deriving DecidableEq

def TemplateError.message (e : TemplateError) : String :=
  (match e.source with
    | none | some "" => "<template>"
    | some s => s) ++ ":" ++ natText e.line ++ ": " ++ e.cause.detail

end ViewModel
