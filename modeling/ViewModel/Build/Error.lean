import ViewModel.Model.Type
import ViewModel.Number.Text
import ViewModel.Text.Quoted

/-!
What can be wrong with a set of classes, and how it is said.
-/

namespace ViewModel

/-- The type of an expression: a bare null has none of the types of properties. -/
inductive Typing
  | null
  | known (type : TypeRef)
  deriving DecidableEq, Inhabited

def Typing.describe : Typing → String
  | null => "_NullLiteralType"
  | known t => t.describe

/-- The families of build errors. -/
inductive BuildError.Kind
  | manifest
  | unresolvedType
  | ambiguousReturn
  | unsupportedExpression
  | duplicateProperty
  | classSource
  deriving DecidableEq

inductive BuildError.Cause
  | notOneName (line : Nat)
  | notOneHintedName (line : Nat)
  | unreadable (file : String) (line : Nat)
  | manyBases
  | baseNotName
  | setter
  | accessorBody
  | unparsableHint (hint : String)
  | unknownHint (name : String)
  | genericHint (name : Option String)
  | unionHint
  | hintForm (form : String)
  | exampleCount
  | nullExample
  | unknownConstructor (name : String)
  | uninferable (form : String)
  | notSequence (hinted : TypeRef)
  | noHint
  | duplicateClass
  | duplicateClassIn (source : String)
  | unknownBase (name : String)
  | unknownParent (name : String)
  | inheritanceCycle
  | duplicateProperty
  | redeclared (owner : String)
  | alwaysNull
  | bareSelf
  | freeName (name : String)
  | functionCall
  | unknownForm (name : String)
  | constantKind (name : String)
  | truthiness (type : Typing)
  | prefixOperator (name : String)
  | nullWithNull
  | identity
  | comparison (operator : String)
  | unordered (type : Typing)
  | notPrimitive (left right : Typing)
  | neverEqual (left right : Typing)
  | branches (whenTrue whenFalse : Typing)
  | notFromSelf
  | noMembers (path : List String) (type : TypeRef)
  | noClass (name : String)
  | unknownMember (path : List String) (className : String)
  | cycle
  | noExpression
  | otherType (declared inferred : TypeRef)
  /-- A null character, which no source may hold. -/
  | nullCharacter
  deriving DecidableEq

namespace BuildError.Cause

def kind : BuildError.Cause → Kind
  | .notOneName _ | .notOneHintedName _ | .unreadable .. => .classSource
  | .duplicateClass | .duplicateClassIn _ | .unknownParent _ | .nullCharacter => .manifest
  | .duplicateProperty | .redeclared _ => .duplicateProperty
  | .branches .. | .otherType .. => .ambiguousReturn
  | .setter | .accessorBody | .bareSelf | .freeName _ | .functionCall | .unknownForm _
  | .constantKind _ | .truthiness _ | .prefixOperator _ | .nullWithNull | .identity
  | .comparison _ | .unordered _ | .notPrimitive .. | .neverEqual .. | .notFromSelf | .cycle
  | .noExpression => .unsupportedExpression
  | _ => .unresolvedType

def detail : BuildError.Cause → String
  | notOneName line =>
      "line " ++ natText line ++ ": only simple 'name = value' field initializers are supported"
  | notOneHintedName line =>
      "line " ++ natText line ++ ": only simple annotated field initializers are supported"
  | unreadable file line => file ++ ":" ++ natText line ++ ": syntax error"
  | manyBases => "multiple inheritance is not supported"
  | baseNotName => "base class must be a plain name"
  | setter => "computed properties are read-only; setters are not supported"
  | accessorBody => "accessor body must be a single return statement"
  | unparsableHint hint => "unparseable type hint " ++ Text.quoted hint
  | unknownHint name =>
      "type hint '" ++ name ++ "' names no primitive and no class with a manifest"
  | genericHint name => "unsupported generic type hint '" ++ name.getD "None" ++ "'"
  | unionHint => "union type hints are only supported as 'T | None'"
  | hintForm form => "unsupported type hint (" ++ form ++ ")"
  | exampleCount => "sequence defaults must contain exactly one example element"
  | nullExample => "sequence example element must not be None"
  | unknownConstructor name => "default constructs '" ++ name ++ "', which has no manifest"
  | uninferable form => "cannot infer a type from a " ++ form ++ " default"
  | notSequence hinted => "list default with a non-sequence hint (" ++ hinted.describe ++ ")"
  | noHint => "default is None or absent and there is no type hint"
  | duplicateClass => "class is declared more than once"
  | duplicateClassIn source => "class is declared more than once (again in " ++ source ++ ")"
  | unknownBase name => "base class '" ++ name ++ "' has no manifest"
  | unknownParent name => "parent class '" ++ name ++ "' is not in the manifest"
  | inheritanceCycle => "inheritance cycle"
  | duplicateProperty => "property is declared more than once"
  | redeclared owner => "redeclares a property inherited from " ++ owner
  | alwaysNull => "expression always evaluates to None"
  | bareSelf => "bare 'self' cannot be returned"
  | freeName name => "free name '" ++ name ++ "'; only self.<property> may be referenced"
  | functionCall => "function calls are not allowed in computed properties"
  | unknownForm name => "unsupported expression: " ++ name
  | constantKind name => "unsupported constant type: " ++ name
  | truthiness type =>
      "truthiness of " ++ type.describe ++ " is not portable; compare explicitly"
  | prefixOperator name => "unsupported unary operator: " ++ name
  | nullWithNull => "comparison of None with None"
  | identity => "identity comparison is only supported against None"
  | comparison operator => "unsupported comparison operator: " ++ operator
  | unordered type =>
      "ordering comparison of " ++ type.describe ++ "; only integer and float are ordered"
  | notPrimitive left right =>
      "equality between " ++ left.describe ++ " and " ++ right.describe
        ++ "; only primitive values compare the same way in every target"
  | neverEqual left right =>
      "equality between " ++ left.describe ++ " and " ++ right.describe ++ " is always false"
  | branches whenTrue whenFalse =>
      "ternary branches disagree: " ++ whenTrue.describe ++ " vs " ++ whenFalse.describe
  | notFromSelf => "member access must start from self"
  | noMembers path type =>
      "'" ++ String.intercalate "." path ++ "' is " ++ type.describe ++ " and has no members"
  | noClass name => "class '" ++ name ++ "' has no manifest"
  | unknownMember path className =>
      "'" ++ String.intercalate "." path ++ "' does not name a property of " ++ className
  | cycle => "computed properties reference each other in a cycle"
  | noExpression => "computed property has no expression"
  | otherType declared inferred =>
      "annotated as " ++ declared.describe ++ " but the expression is " ++ inferred.describe
  | nullCharacter => "source holds a null character"

end BuildError.Cause

/-- A cause with the class and the property that it concerns, empty where it concerns none. -/
structure BuildError where
  className : String := ""
  property : String := ""
  cause : BuildError.Cause
  deriving DecidableEq

namespace BuildError

/-- The message names the class, and the property if there is one. -/
def message (e : BuildError) : String :=
  if e.className = "" then e.cause.detail
  else if e.property = "" then e.className ++ ": " ++ e.cause.detail
  else e.className ++ "." ++ e.property ++ ": " ++ e.cause.detail

end BuildError

end ViewModel
