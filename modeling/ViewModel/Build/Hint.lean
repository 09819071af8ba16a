import ViewModel.Build.Error
import ViewModel.Source.Statement

/-!
Types from hints: primitive names, class names, sequences, and types with null. `classes` are the
names of all classes.
-/

namespace ViewModel

namespace Hint

def primitive? : String → Option TypeRef
  | "str" => some .string
  | "bool" => some .boolean
  | "int" => some .integer
  | "float" => some .float
  | _ => none

/-- The generic names that stand for sequences. -/
def sequences : List String := ["List", "list", "Sequence", "Iterable"]

/-- A primitive or a class. -/
def named (classes : List String) (name : String) : Except BuildError.Cause TypeRef :=
  match primitive? name with
  | some t => .ok t
  | none =>
      if classes.contains name then .ok (.reference name) else .error (.unknownHint name)

/-- The type that a hint writes; `quoted` reads hints that are texts. -/
def ofTerm (classes : List String) (quoted : String → Except BuildError.Cause TypeRef) :
    Source.Term → Except BuildError.Cause TypeRef
  | .constant (.text s) => quoted s
  | .name id => named classes id
  | .access _ id => named classes id
  | .subscript outer inner =>
      match outer.lastName? with
      | some "Optional" => TypeRef.orNull <$> ofTerm classes quoted inner
      | some name =>
          if sequences.contains name then TypeRef.sequence <$> ofTerm classes quoted inner
          else .error (.genericHint (some name))
      | none => .error (.genericHint none)
  | .arithmetic true left right =>
      match left.isNone, right.isNone with
      | true, false => TypeRef.orNull <$> ofTerm classes quoted right
      | false, true => TypeRef.orNull <$> ofTerm classes quoted left
      | _, _ => .error .unionHint
  | t => .error (.hintForm t.kindName)

/-- The type that a text writes. A text inside it is shorter, so its length is enough fuel. -/
def ofText (classes : List String) : Nat → String → Except BuildError.Cause TypeRef
  | 0, s => .error (.unparsableHint s)
  | fuel + 1, s =>
      if s.toList.contains '\x00' then .error .nullCharacter
      else
        match Source.readExpression? s with
        | some t => ofTerm classes (ofText classes fuel) t
        | none => .error (.unparsableHint s)

/-- The type that a hint writes. -/
def type (classes : List String) (hint : Source.Term) : Except BuildError.Cause TypeRef :=
  ofTerm classes (fun s => ofText classes (s.length + 1) s) hint

end Hint

end ViewModel
