import ViewModel.Model.Manifest
import ViewModel.Target.Dialects
import ViewModel.Target.TypeName

/-!
One file for each class and target: the properties in order, fields with their defaults and
computed properties with their expressions.
-/

namespace ViewModel

/-- The classes that the file of a class refers to, other than itself, sorted and each once. -/
def ClassDecl.references (c : ClassDecl) : List String :=
  let mentioned := c.parent.toList ++ c.properties.flatMap (fun p => p.type.classes)
  ((mentioned.filter (· ≠ c.name)).mergeSort (fun a b => decide (a ≤ b))).eraseDups

namespace ClassFile

def lines (ls : List String) : String := String.join (ls.map (· ++ "\n"))

def indent (n : Nat) (s : String) : String := String.ofList (List.replicate (4 * n) ' ') ++ s

def pascal (s : String) : String := String.ofList (Text.pascalCase s.toList)

def camel (s : String) : String := String.ofList (Text.camelCase s.toList)

def snake (s : String) : String := String.ofList (Text.snakeCase s.toList)

/-- The default of a primitive field, or the zero of its kind. -/
def primitiveDefault (literal : Scalar → String) (zero : Primitive → String) (k : Primitive)
    (default : Scalar) : String :=
  match default with
  | .null => zero k
  | s => literal s

section CSharp

def csharpZero : Primitive → String
  | .string => "\"\""
  | .boolean => "false"
  | .integer => "0"
  | .float => "0.0"

def csharpInitializer (p : PropertyDecl) : Except PrintError String :=
  match p.type with
  | .nullable _ => .ok ""
  | .primitive k =>
      .ok (" = " ++ primitiveDefault Scalar.braceLiteral csharpZero k p.default ++ ";")
  | t => return " = new " ++ (← t.csharp) ++ "();"

def csharpProperty (p : PropertyDecl) : Except PrintError String := do
  let head := "public " ++ (← p.type.csharp) ++ " " ++ pascal p.name
  if p.computed then
    return indent 2 (head ++ " => " ++ (← Dialect.csharp.print p.expression) ++ ";")
  else return indent 2 (head ++ " \x7b get; set; \x7d" ++ (← csharpInitializer p))

def csharp (namespaceName : String) (c : ClassDecl) : Except PrintError String := do
  let properties ← c.properties.mapM csharpProperty
  let parent := match c.parent with
    | some p => " : " ++ p
    | none => ""
  return lines
    (["// <auto-generated>",
      "//     Generated by isomodel from " ++ c.name ++ ". Do not edit.",
      "// </auto-generated>",
      "#nullable enable",
      "using System.Collections.Generic;",
      "",
      "namespace " ++ namespaceName,
      "\x7b",
      indent 1 ("public class " ++ c.name ++ parent),
      indent 1 "\x7b"]
      ++ properties ++ [indent 1 "\x7d", "\x7d"])

end CSharp

section TypeScript

def typescriptZero : Primitive → String
  | .string => "\"\""
  | .boolean => "false"
  | _ => "0"

def typescriptInitializer (p : PropertyDecl) : String :=
  match p.type with
  | .nullable _ => "null"
  | .primitive k => primitiveDefault Scalar.braceLiteral typescriptZero k p.default
  | .reference c => "new " ++ c ++ "()"
  | _ => "[]"

/-- The lines of a property; a computed one keeps an empty line before it unless it is the
first. -/
def typescriptProperty (isFirst : Bool) (p : PropertyDecl) : Except PrintError (List String) := do
  let t ← p.type.typescript
  if p.computed then
    let value ← Dialect.typescript.print p.expression
    return (if isFirst then [] else [""])
      ++ ["  get " ++ camel p.name ++ "(): " ++ t ++ " \x7b", "    return " ++ value ++ ";",
        "  \x7d"]
  else return ["  " ++ camel p.name ++ ": " ++ t ++ " = " ++ typescriptInitializer p ++ ";"]

def typescript (c : ClassDecl) : Except PrintError String := do
  let first ← (c.properties.take 1).mapM (typescriptProperty true)
  let others ← (c.properties.drop 1).mapM (typescriptProperty false)
  let parent := match c.parent with
    | some p => " extends " ++ p
    | none => ""
  let imports := c.references.map (fun n => "import \x7b " ++ n ++ " \x7d from \"./" ++ n ++ "\";")
  return lines
    (["// Generated by isomodel. Do not edit."] ++ imports
      ++ ["", "export class " ++ c.name ++ parent ++ " \x7b"]
      ++ first.flatten ++ others.flatten ++ ["\x7d"])

end TypeScript

section Python

def pythonHeader : String := "# Generated by isomodel. Do not edit."

def pythonZero : Primitive → String
  | .string => "\"\""
  | .boolean => "False"
  | .integer => "0"
  | .float => "0.0"

def pythonDefault (p : PropertyDecl) : String :=
  match p.type with
  | .nullable _ => "None"
  | .primitive k => primitiveDefault Scalar.pythonLiteral pythonZero k p.default
  | .reference c => "field(default_factory=" ++ c ++ ")"
  | _ => "field(default_factory=list)"

/-- The lines of properties. An empty line stands between an accessor and whatever is before it,
and between an accessor and a field after it. -/
def pythonProperties (isFirst afterAccessor : Bool) :
    List PropertyDecl → Except PrintError (List String)
  | [] => .ok []
  | p :: rest => do
      let t ← p.type.python
      if p.computed then
        let value ← Dialect.python.print p.expression
        let more ← pythonProperties false true rest
        return (if isFirst then [] else [""])
          ++ [indent 1 "@property", indent 1 ("def " ++ p.name ++ "(self) -> " ++ t ++ ":"),
            indent 2 ("return " ++ value)] ++ more
      else
        let more ← pythonProperties false false rest
        return (if afterAccessor then [""] else [])
          ++ [indent 1 (p.name ++ ": " ++ t ++ " = " ++ pythonDefault p)] ++ more

/-- Whether the default of a field is made anew for every object. -/
def usesField (p : PropertyDecl) : Bool :=
  !p.computed && !p.type.isPrimitive && !p.type.isNullable

def pythonImports (c : ClassDecl) : List String :=
  let typing := (if c.properties.any (·.type.hasSequence) then ["List"] else [])
    ++ (if c.properties.any (·.type.hasNullable) then ["Optional"] else [])
  let classes := c.references.map (fun n => "from ." ++ snake n ++ " import " ++ n)
  [if c.properties.any usesField then "from dataclasses import dataclass, field"
    else "from dataclasses import dataclass"]
    ++ (if typing.isEmpty then [] else ["from typing import " ++ String.intercalate ", " typing])
    ++ (if classes.isEmpty then [] else "" :: classes)

def python (c : ClassDecl) : Except PrintError String := do
  let body ← pythonProperties true false c.properties
  let parent := match c.parent with
    | some p => "(" ++ p ++ ")"
    | none => ""
  return lines
    ([pythonHeader, "from __future__ import annotations", ""] ++ pythonImports c
      ++ ["", "", "@dataclass", "class " ++ c.name ++ parent ++ ":"]
      ++ (if body.isEmpty then [indent 1 "pass"] else body))

/-- The file that gathers all classes of a package. -/
def pythonPackage (m : Manifest) : String :=
  let byModule := m.names.mergeSort (fun a b => decide (snake a ≤ snake b))
  let byName := m.names.mergeSort (fun a b => decide (a ≤ b))
  lines
    ([pythonHeader] ++ byModule.map (fun n => "from ." ++ snake n ++ " import " ++ n)
      ++ ["", "__all__ = ["] ++ byName.map (fun n => indent 1 ("\"" ++ n ++ "\",")) ++ ["]"])

end Python

end ClassFile

/-- The languages that classes are written in. -/
inductive Target
  | csharp
  | typescript
  | python
  deriving DecidableEq, Inhabited

namespace Target

def all : List Target := [csharp, typescript, python]

def name : Target → String
  | csharp => "csharp"
  | typescript => "typescript"
  | python => "python"

def ofName? (s : String) : Option Target := all.find? (fun t => t.name == s)

theorem ofName?_name (t : Target) : ofName? t.name = some t := by
  cases t <;> decide

def fileName (t : Target) (c : ClassDecl) : String :=
  match t with
  | csharp => c.name ++ ".cs"
  | typescript => c.name ++ ".ts"
  | python => ClassFile.snake c.name ++ ".py"

/-- The file of a class; only C# has a namespace. -/
def classFile (t : Target) (namespaceName : String) (c : ClassDecl) : Except PrintError String :=
  match t with
  | csharp => ClassFile.csharp namespaceName c
  | typescript => ClassFile.typescript c
  | python => ClassFile.python c

def dialect : Target → Dialect
  | csharp => .csharp
  | typescript => .typescript
  | python => .python

def typeName : Target → TypeRef → Except PrintError String
  | csharp => TypeRef.csharp
  | typescript => TypeRef.typescript
  | python => TypeRef.python

end Target

end ViewModel
