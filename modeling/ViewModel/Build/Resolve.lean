import ViewModel.Build.Field
import ViewModel.Model.Manifest
import ViewModel.Source.Declaration

/-!
From declarations to a manifest: every class is declared once, extends a class of the set without
going in a circle, and declares each property once along its line of ancestors.
-/

namespace ViewModel

open Source (Declaration Member)

namespace Resolve

/-- The first class that is declared again. -/
def checkNames : List String → List Declaration → Except BuildError Unit
  | _, [] => .ok ()
  | seen, d :: rest =>
      if seen.contains d.name then .error ⟨d.name, "", .duplicateClassIn d.source⟩
      else checkNames (d.name :: seen) rest

def find? (all : List Declaration) (name : String) : Option Declaration :=
  all.find? (fun d => d.name == name)

def checkBases (all : List Declaration) : Except BuildError Unit :=
  all.forM (fun d =>
    match d.base with
    | none => .ok ()
    | some base =>
        if (find? all base).isSome then .ok () else .error ⟨d.name, "", .unknownBase base⟩)

/-- A declaration and at most `n` of its ancestors, nearest first; none if there are more. -/
def line? (all : List Declaration) : Nat → Declaration → Option (List Declaration)
  | n, d =>
      match d.base.bind (find? all) with
      | none => some [d]
      | some p =>
          match n with
          | 0 => none
          | n + 1 => (line? all n p).map (d :: ·)

/-- A class that has more ancestors than there are classes meets one of them twice. -/
def checkLine (all : List Declaration) (d : Declaration) : Except BuildError (List Declaration) :=
  match line? all all.length d with
  | some line => .ok line
  | none => .error ⟨d.name, "", .inheritanceCycle⟩

/-- The property that a member declares. -/
def property (classes : List String) : Member → Except BuildError.Cause PropertyDecl
  | .field name _ value hint => do
      let (t, default) ← Field.infer classes value hint
      return { name := name, type := t, default := default }
  | .accessor name _ expression returns =>
      .ok { name := name, computed := true, accessor := some ⟨expression, returns⟩ }

def hasMember (name : String) (d : Declaration) : Bool := d.members.any (fun m => m.name == name)

/-- The properties of a class, from the members that are left and the names seen so far. -/
def properties (classes : List String) (ancestors : List Declaration) (className : String) :
    List String → List Member → Except BuildError (List PropertyDecl)
  | _, [] => .ok []
  | seen, m :: rest => do
      if seen.contains m.name then throw ⟨className, m.name, .duplicateProperty⟩
      if let some owner := ancestors.find? (hasMember m.name) then
        throw ⟨className, m.name, .redeclared owner.name⟩
      let p ← (property classes m).mapError (fun cause => ⟨className, m.name, cause⟩)
      return p :: (← properties classes ancestors className (m.name :: seen) rest)

def classDecl (classes : List String) (ancestors : List Declaration) (d : Declaration) :
    Except BuildError ClassDecl := do
  let ps ← properties classes ancestors d.name [] d.members
  return { name := d.name, parent := d.base, properties := ps, source := some d.source }

/-- Adds the first class of a line, after the ancestors that follow it. -/
def addLine (classes : List String) (done : List ClassDecl) :
    List Declaration → Except BuildError (List ClassDecl)
  | [] => .ok done
  | d :: ancestors => do
      if done.any (fun c => c.name == d.name) then return done
      let done ← addLine classes done ancestors
      return done ++ [← classDecl classes ancestors d]

/-- The manifest of some declarations, classes in the order of declaration. -/
def manifest (all : List Declaration) : Except BuildError Manifest := do
  checkNames [] all
  checkBases all
  let lines ← all.mapM (checkLine all)
  let filled ← lines.foldlM (addLine (all.map (·.name))) []
  return ⟨all.filterMap (fun d => filled.find? (fun c => c.name == d.name))⟩

end Resolve

end ViewModel
