import ViewModel.Json.Writer
import ViewModel.Model.Expr
import ViewModel.Text.Words

/-!
Expressions in the syntax of a target. An expression becomes a row of pieces; parentheses stand
where an operand binds less closely than its place asks for.
-/

namespace ViewModel

/-- The words of printed expressions. `access` reads a property by its printed name, `safe` where
its receiver may be null; the two parts of a conditional and the operators between operands have
blanks around them. -/
inductive Piece
  | literal (value : Scalar)
  | self
  | access (safe : Bool) (name : String)
  | opening
  | closing
  | between (operator : String)
  | before (operator : String)
  deriving DecidableEq, Inhabited

/-- What a target decides about expressions. A higher level binds more closely; `chains` says that
comparisons side by side mean all of them. -/
structure Dialect where
  operator : BinaryOp → String
  level : BinaryOp → Nat
  chains : Bool
  negation : String
  negationLevel : Nat
  nullTest : Bool → String
  nullTestLevel : Nat
  literal : Scalar → String
  /-- The word for the instance. -/
  self : String
  member : List String → List Int → List Piece
  conditional : List Piece → List Piece → List Piece → List Piece

namespace Piece

def text (d : Dialect) : Piece → String
  | literal s => d.literal s
  | self => d.self
  | access safe name => (if safe then "?." else ".") ++ name
  | opening => "("
  | closing => ")"
  | between s => " " ++ s ++ " "
  | before s => s

def textOf (d : Dialect) (ps : List Piece) : String := String.join (ps.map (text d))

end Piece

namespace Dialect

/-- Literals and properties bind most closely, conditionals least. -/
def closest : Nat := 100

def conditionalLevel : Nat := 1

/-- How closely an expression binds once it is printed. -/
def levelOf (d : Dialect) : Expr → Nat
  | .binary op _ _ => d.level op
  | .not _ => d.negationLevel
  | .nullCheck .. => d.nullTestLevel
  | .ternary .. => conditionalLevel
  | _ => closest

/-- Puts parentheses around what binds less closely than `least`. -/
def enclose (least level : Nat) (ps : List Piece) : List Piece :=
  if level < least then .opening :: ps ++ [.closing] else ps

/-- The least level of the left operand: operators join from the left, but comparisons that would
chain do not. -/
def leftLevel (d : Dialect) (op : BinaryOp) : Nat :=
  if d.chains && !op.isLogical then d.level op + 1 else d.level op

/-- The pieces of an expression; a hole has none. -/
def pieces (d : Dialect) : Expr → List Piece
  | .hole => []
  | .literal s => [.literal s]
  | .member path nullSafe => d.member path nullSafe
  | .nullCheck e negated =>
      enclose (d.nullTestLevel + 1) (d.levelOf e) (d.pieces e)
        ++ [.between (d.nullTest negated), .literal .null]
  | .not e => .before d.negation :: enclose d.negationLevel (d.levelOf e) (d.pieces e)
  | .binary op l r =>
      enclose (d.leftLevel op) (d.levelOf l) (d.pieces l)
        ++ .between (d.operator op) :: enclose (d.level op + 1) (d.levelOf r) (d.pieces r)
  | .ternary c t f =>
      d.conditional (enclose (conditionalLevel + 1) (d.levelOf c) (d.pieces c))
        (enclose (conditionalLevel + 1) (d.levelOf t) (d.pieces t))
        (enclose conditionalLevel (d.levelOf f) (d.pieces f))

end Dialect

/-- Why a class or an expression cannot be printed. -/
inductive PrintError
  /-- A type, or a part of one, is left out. -/
  | unresolvedType
  /-- An expression, or a part of one, is left out. -/
  | hole
  deriving DecidableEq

def PrintError.message : PrintError → String
  | unresolvedType => "Unsupported type: None"
  | hole => "Unsupported Expression type: <class 'NoneType'>"

/-- The text of an expression that has no holes. -/
def Dialect.print (d : Dialect) (e : Expr) : Except PrintError String :=
  if e.isComplete then .ok (Piece.textOf d (d.pieces e)) else .error .hole

end ViewModel
