import ViewModel.Target.Printed

/-!
The syntax of expressions in the three targets.
-/

namespace ViewModel

/-- Literals with JSON texts and small keywords, and fewest digits for floats. -/
def Scalar.braceLiteral : Scalar → String
  | null => "null"
  | bool b => if b then "true" else "false"
  | int n => intText n
  | float x => x.text
  | text s => Json.quote s

/-- Literals with quoted texts and capital keywords. -/
def Scalar.pythonLiteral (s : Scalar) : String := s.toValue.inspect

namespace Dialect

def braceOperator : BinaryOp → String
  | .and => "&&"
  | .or => "||"
  | op => op.symbol

def braceLevel : BinaryOp → Nat
  | .or => 2
  | .and => 3
  | .equals | .notEquals => 4
  | _ => 5

/-- The properties of a path in order, by their printed names; `nullSafe` says which receivers may
be null. -/
def accesses (name : String → String) (nullSafe : List Int) : Nat → List String → List Piece
  | _, [] => []
  | i, segment :: rest =>
      .access ((i : Int) ∈ nullSafe) (name segment) :: accesses name nullSafe (i + 1) rest

def braceMember (name : String → String) (path : List String) (nullSafe : List Int) :
    List Piece :=
  .self :: accesses name nullSafe 0 path

def braceConditional (c t f : List Piece) : List Piece :=
  c ++ .between "?" :: t ++ .between ":" :: f

def csharp : Dialect where
  operator := braceOperator
  level := braceLevel
  chains := false
  negation := "!"
  negationLevel := 6
  nullTest negated := if negated then "!=" else "=="
  nullTestLevel := 4
  literal := Scalar.braceLiteral
  self := "this"
  member := braceMember (fun s => String.ofList (Text.pascalCase s.toList))
  conditional := braceConditional

def typescript : Dialect :=
  { csharp with
    operator := fun op =>
      match op with
      | .equals => "==="
      | .notEquals => "!=="
      | op => braceOperator op
    member := braceMember (fun s => String.ofList (Text.camelCase s.toList)) }

/-- The paths of the receivers that may be null. -/
def guardedPrefixes (nullSafe : List Int) (sofar : List String) :
    Nat → List String → List (List String)
  | _, [] => []
  | i, segment :: rest =>
      let more := guardedPrefixes nullSafe (sofar ++ [segment]) (i + 1) rest
      if (i : Int) ∈ nullSafe then sofar :: more else more

/-- A path of properties, none of whose receivers is null. -/
def plainMember (path : List String) : List Piece := .self :: path.map (.access false)

/-- The test that a receiver is not null. -/
def guard (receiver : List String) : List Piece :=
  plainMember receiver ++ [.between "is not", .literal .null]

/-- The tests that no receiver is null, joined. -/
def guards (first : List String) (more : List (List String)) : List Piece :=
  guard first ++ more.flatMap (fun receiver => .between "and" :: guard receiver)

def pythonMember (path : List String) (nullSafe : List Int) : List Piece :=
  match guardedPrefixes nullSafe [] 0 path with
  | [] => plainMember path
  | first :: more =>
      .opening :: plainMember path ++ .between "if" :: guards first more
        ++ [.between "else", .literal .null, .closing]

def python : Dialect where
  operator
    | .and => "and"
    | .or => "or"
    | op => op.symbol
  level
    | .or => 2
    | .and => 3
    | _ => 5
  chains := true
  negation := "not "
  negationLevel := 4
  nullTest negated := if negated then "is not" else "is"
  nullTestLevel := 5
  literal := Scalar.pythonLiteral
  self := "self"
  member := pythonMember
  conditional c t f := t ++ .between "if" :: c ++ .between "else" :: f

end Dialect

end ViewModel
