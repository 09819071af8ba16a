import ViewModel.Source.Term

/-!
Tokens of the authoring language, with the line each one starts on.
-/

namespace ViewModel.Source

/-- A text literal as written: its body without quotes and the letters before it. -/
structure Quote where
  bytes : Bool
  raw : Bool
  formatted : Bool
  body : List Char
  deriving DecidableEq, Inhabited

inductive Token
  | word (s : String)
  | number (c : Constant)
  /-- A whole number of more digits than are read. -/
  | overlong
  | quote (q : Quote)
  | symbol (s : String)
  | newline
  | indent
  | dedent
  | finish
  deriving DecidableEq, Inhabited

/-- `depth` counts the brackets that are open after the token. -/
structure Lexeme where
  token : Token
  line : Nat
  depth : Nat
  deriving DecidableEq, Inhabited

/-- Words that are never names. -/
def reserved : List String :=
  ["False", "None", "True", "and", "as", "assert", "async", "await", "break", "class", "continue",
    "def", "del", "elif", "else", "except", "finally", "for", "from", "global", "if", "import",
    "in", "is", "lambda", "nonlocal", "not", "or", "pass", "raise", "return", "try", "while",
    "with", "yield"]

def isReserved (s : String) : Bool := reserved.contains s

/-- Why no further token could be read, and on which line. A `lexical` fault is in the characters
themselves; `openSince` is the line of the innermost bracket still open. -/
structure ScanFault where
  line : Nat
  lexical : Bool
  openSince : Option Nat
  deriving DecidableEq, Inhabited

/-- The tokens of a text up to its end or the first fault. -/
structure Scan where
  lexemes : List Lexeme
  fault : Option ScanFault
  deriving Inhabited

end ViewModel.Source
