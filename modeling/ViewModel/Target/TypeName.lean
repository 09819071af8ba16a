import ViewModel.Model.Type
import ViewModel.Target.Printed

/-!
Types as the three targets write them.
-/

namespace ViewModel.TypeRef

/-- The C# name of a type. -/
def csharp : TypeRef → Except PrintError String
  | unresolved => .error .unresolvedType
  | primitive .string => .ok "string"
  | primitive .boolean => .ok "bool"
  | primitive .integer => .ok "int"
  | primitive .float => .ok "double"
  | reference c => .ok c
  | sequence t => return "List<" ++ (← t.csharp) ++ ">"
  | nullable t => return (← t.csharp) ++ "?"

/-- The TypeScript name of a type. -/
def typescript : TypeRef → Except PrintError String
  | unresolved => .error .unresolvedType
  | primitive .string => .ok "string"
  | primitive .boolean => .ok "boolean"
  | primitive _ => .ok "number"
  | reference c => .ok c
  | sequence t => do
      let element ← t.typescript
      return (if t.isNullable then "(" ++ element ++ ")" else element) ++ "[]"
  | nullable t => return (← t.typescript) ++ " | null"

/-- The Python name of a type. -/
def python : TypeRef → Except PrintError String
  | unresolved => .error .unresolvedType
  | primitive .string => .ok "str"
  | primitive .boolean => .ok "bool"
  | primitive .integer => .ok "int"
  | primitive .float => .ok "float"
  | reference c => .ok c
  | sequence t => return "List[" ++ (← t.python) ++ "]"
  | nullable t => return "Optional[" ++ (← t.python) ++ "]"

/-- Whether a part of the type is a sequence. -/
def hasSequence : TypeRef → Bool
  | sequence _ => true
  | nullable t => t.hasSequence
  | _ => false

/-- Whether a part of the type is nullable. -/
def hasNullable : TypeRef → Bool
  | nullable _ => true
  | sequence t => t.hasNullable
  | _ => false

end ViewModel.TypeRef
