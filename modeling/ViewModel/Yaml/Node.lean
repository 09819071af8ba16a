import ViewModel.Yaml.Scalar
import ViewModel.Yaml.Scanner

/-!
The tree of a YAML document: tokens grouped into scalars, sequences and mappings, with aliases
replaced by what they name; and the data that such a tree stands for.
-/

namespace ViewModel.Yaml

/-- How the text of a scalar is to be read: by its form, as it is, or as what its tag says. -/
inductive Reading
  | byForm
  | verbatim
  | tagged (tag : String)

inductive Node
  | scalar (reading : Reading) (text : String)
  | sequence (tag : Option String) (items : List Node)
  | mapping (tag : Option String) (entries : List (Node × Node))
  deriving Inhabited

namespace Node

def empty : Node := scalar .byForm ""

/-- What is left of the tokens, what anchors name, and what the handles of tags stand for. -/
structure Progress where
  tokens : List Token
  anchors : List (String × Node)
  handles : List (String × String)

abbrev Reader := StateT Progress (Except YamlError)

def lead : String := "tag:yaml.org,2002:"

def refuse {α : Type} : Reader α := throw .malformed

def peek : Reader (Option Token) := return (← get).tokens.head?

def skip : Reader Unit := modify (fun p => { p with tokens := p.tokens.tail })

/-- Takes the next token where it is `t`. -/
def skipIf (t : Token) : Reader Bool := do
  if (← peek) = some t then
    skip
    return true
  else return false

def require (t : Token) : Reader Unit := do
  if !(← skipIf t) then refuse

/-- Whether the next token is one of these, or there is none. -/
def isNext (ts : List Token) : Reader Bool :=
  return (← peek).all (· ∈ ts)

/-- The tag in full; `!` alone is no tag. -/
def fullTag (handle : Option String) (suffix : String) : Reader String := do
  match handle with
  | none => return suffix
  | some h =>
      match Entries.find? (← get).handles h with
      | some lead => return lead ++ suffix
      | none => refuse

/-- An anchor and a tag, in either order. -/
def properties : Reader (Option String × Option String) := do
  match ← peek with
  | some (.anchor a) =>
      skip
      match ← peek with
      | some (.tag h s) =>
          skip
          return (some a, some (← fullTag h s))
      | _ => return (some a, none)
  | some (.tag h s) =>
      skip
      match ← peek with
      | some (.anchor a) =>
          skip
          return (some a, some (← fullTag h s))
      | _ => return (none, some (← fullTag h s))
  | _ => return (none, none)

def scalarReading (plain : Bool) (tag : Option String) : Reading :=
  match tag with
  | some t => if t = "!" then .byForm else .tagged t
  | none => if plain then .byForm else .verbatim

/-- Names a node; a name is given once. -/
def define (name : Option String) (n : Node) : Reader Node := do
  match name with
  | none => return n
  | some a =>
      if (Entries.find? (← get).anchors a).isSome then refuse
      modify (fun p => { p with anchors := (a, n) :: p.anchors })
      return n

mutual

/-- A node. Only a mapping's key and value may be a sequence whose items are not indented. -/
def node (indentless : Bool) : Nat → Reader Node
  | 0 => refuse
  | fuel + 1 => do
      match ← peek with
      | some (.reference name) =>
          skip
          match Entries.find? (← get).anchors name with
          | some n => return n
          | none => refuse
      | _ =>
          let (name, tag) ← properties
          let collectionTag := tag.filter (· ≠ "!")
          match ← peek with
          | some (.scalar plain text) =>
              skip
              define name (.scalar (scalarReading plain tag) text)
          | some .openSequence =>
              skip
              define name (.sequence collectionTag (← flowItems true fuel))
          | some .openMapping =>
              skip
              define name (.mapping collectionTag (← flowEntries true fuel))
          | some .blockSequence =>
              skip
              define name (.sequence collectionTag (← blockItems fuel))
          | some .blockMapping =>
              skip
              define name (.mapping collectionTag (← blockEntries fuel))
          | t =>
              if indentless && t = some .item then
                define name (.sequence collectionTag (← indentlessItems fuel))
              else if name.isSome || tag.isSome then
                define name (.scalar (scalarReading true tag) "")
              else refuse

/-- A node, or nothing before one of these tokens. -/
def nodeOr (indentless : Bool) (before : List Token) : Nat → Reader Node
  | 0 => refuse
  | fuel + 1 => do
      if ← isNext before then return empty
      else node indentless fuel

def blockItems : Nat → Reader (List Node)
  | 0 => refuse
  | fuel + 1 => do
      if ← skipIf .item then
        let n ← nodeOr false [.item, .blockEnd] fuel
        return n :: (← blockItems fuel)
      else
        require .blockEnd
        return []

def indentlessItems : Nat → Reader (List Node)
  | 0 => refuse
  | fuel + 1 => do
      if ← skipIf .item then
        let n ← nodeOr false [.item, .key, .value, .blockEnd] fuel
        return n :: (← indentlessItems fuel)
      else return []

def blockEntries : Nat → Reader (List (Node × Node))
  | 0 => refuse
  | fuel + 1 => do
      let bounds := [Token.key, .value, .blockEnd]
      if ← skipIf .key then
        let k ← nodeOr true bounds fuel
        let v ← if ← skipIf .value then nodeOr true bounds fuel else pure empty
        return (k, v) :: (← blockEntries fuel)
      else
        require .blockEnd
        return []

/-- The items of a sequence in brackets; an entry with a colon is a mapping of its own. -/
def flowItems (first : Bool) : Nat → Reader (List Node)
  | 0 => refuse
  | fuel + 1 => do
      if ← skipIf .closeSequence then return []
      if !first then require .comma
      if ← skipIf .closeSequence then return []
      let n ←
        if ← skipIf .key then
          let k ← nodeOr false [.value, .comma, .closeSequence] fuel
          let v ←
            if ← skipIf .value then nodeOr false [.comma, .closeSequence] fuel else pure empty
          pure (.mapping none [(k, v)])
        else node false fuel
      return n :: (← flowItems false fuel)

/-- The entries of a mapping in braces; a key may have no value. -/
def flowEntries (first : Bool) : Nat → Reader (List (Node × Node))
  | 0 => refuse
  | fuel + 1 => do
      if ← skipIf .closeMapping then return []
      if !first then require .comma
      if ← skipIf .closeMapping then return []
      let e ←
        if ← skipIf .key then
          let k ← nodeOr false [.value, .comma, .closeMapping] fuel
          let v ←
            if ← skipIf .value then nodeOr false [.comma, .closeMapping] fuel else pure empty
          pure (k, v)
        else
          let k ← node false fuel
          pure (k, empty)
      return e :: (← flowEntries false fuel)

end

/-- The directives before a document: at most one version, and each handle once. -/
def directives (versioned : Bool) : Nat → Reader Unit
  | 0 => return
  | fuel + 1 => do
      match ← peek with
      | some (.version major) =>
          if versioned || major ≠ 1 then refuse
          skip
          directives true fuel
      | some (.handle name lead) =>
          if (Entries.find? (← get).handles name).isSome then refuse
          skip
          modify (fun p => { p with handles := (name, lead) :: p.handles })
          directives versioned fuel
      | some .otherDirective =>
          skip
          directives versioned fuel
      | _ => return

def isDirective : Token → Bool
  | .version _ | .handle .. | .otherDirective => true
  | _ => false

def defaultHandles : List (String × String) := [("!", "!"), ("!!", lead)]

/-- The one document of a text; an empty text has none. Every call takes a token or is followed by
one that does, so four times their number is enough fuel. -/
def document : Reader (Option Node) := do
  let fuel := 4 * (← get).tokens.length + 4
  match ← peek with
  | none => return none
  | some t =>
      let n ←
        if isDirective t || t = .documentStart then
          directives false fuel
          let own := (← get).handles
          modify (fun p => { p with
            handles := own ++ defaultHandles.filter (fun h => (Entries.find? own h.1).isNone) })
          require .documentStart
          match ← peek with
          | some t =>
              if isDirective t || t ∈ [.documentStart, .documentEnd] then pure empty
              else node false fuel
          | none => pure empty
        else
          modify (fun p => { p with handles := defaultHandles })
          node false fuel
      if (← get).tokens.all (· = .documentEnd) then return some n else refuse

def ofTokens (ts : List Token) : Except YamlError (Option Node) :=
  return (← document.run ⟨ts, [], []⟩).1

end Node

namespace Datum

def wordOf (words : List String) (s : String) : Bool := words.contains (s.map Char.toLower)

/-- A scalar whose tag says what it is. -/
def ofTagged (tag s : String) : Except YamlError Datum :=
  if tag = Node.lead ++ "str" then .ok (.text s)
  else if tag = Node.lead ++ "null" then .ok .null
  else if tag = Node.lead ++ "bool" then
    if wordOf Scalar.trueWords s then .ok (.bool true)
    else if wordOf Scalar.falseWords s then .ok (.bool false)
    else .error .scalar
  else if tag = Node.lead ++ "int" then
    match Scalar.ofPlain s with
    | .datum (.int n) => .ok (.int n)
    | _ => .error .scalar
  else if tag = Node.lead ++ "float" then
    match Scalar.ofPlain s, Double.ofChars? (Scalar.unmarked s.toList) with
    | .datum (.float x), _ => .ok (.float x)
    | _, some x => .ok (.float x)
    | _, none => .error .scalar
  else if tag = Node.lead ++ "timestamp" then
    match Scalar.ofPlain s with
    | .datum (.time t) => .ok (.time t)
    | _ => .error .scalar
  else .error .malformed

def ofScalar (reading : Reading) (s : String) : Except YamlError Datum :=
  match reading with
  | .verbatim => .ok (.text s)
  | .tagged tag => ofTagged tag s
  | .byForm =>
      match Scalar.ofPlain s with
      | .datum d => .ok d
      | .merge | .default => .error .malformed
      | .unreadable => .error .scalar

def isMerge : Node → Bool
  | .scalar .byForm s => s = "<<"
  | .scalar (.tagged tag) _ => tag = Node.lead ++ "merge"
  | _ => false

mutual

def ofNode : Node → Except YamlError Datum
  | .scalar reading s => ofScalar reading s
  | .sequence tag items =>
      if tag.all (· = Node.lead ++ "seq") then return .list (← ofNodes items)
      else .error .malformed
  | .mapping tag entries =>
      if tag.all (· = Node.lead ++ "map") then do
        let (merged, own) ← ofPairs entries
        return ofEntries (merged ++ own)
      else .error .malformed

def ofNodes : List Node → Except YamlError (List Datum)
  | [] => .ok []
  | n :: rest => return (← ofNode n) :: (← ofNodes rest)

/-- The entries that a mapping takes over under the key `<<`, and its own. -/
def ofPairs : List (Node × Node) →
    Except YamlError (List (Datum × Datum) × List (Datum × Datum))
  | [] => .ok ([], [])
  | (k, v) :: rest =>
      if isMerge k then do
        let here ← mergeOf v
        let (merged, own) ← ofPairs rest
        return (here ++ merged, own)
      else do
        let key ← keyOf k
        let d ← ofNode v
        let (merged, own) ← ofPairs rest
        if key.isScalar then return (merged, (key, d) :: own) else .error .malformed

/-- A key; `=` is a text there. -/
def keyOf : Node → Except YamlError Datum
  | .scalar .byForm s => if s = "=" then .ok (.text s) else ofScalar .byForm s
  | n => ofNode n

/-- The entries of a mapping that is merged into another. -/
def mergeOf : Node → Except YamlError (List (Datum × Datum))
  | .mapping _ entries => do
      let (merged, own) ← ofPairs entries
      return merged ++ own
  | .sequence _ items => mergesOf items
  | .scalar .. => .error .malformed

/-- The entries of several mappings, of which the first counts most. -/
def mergesOf : List Node → Except YamlError (List (Datum × Datum))
  | [] => .ok []
  | .mapping _ entries :: rest => do
      let (merged, own) ← ofPairs entries
      return (← mergesOf rest) ++ merged ++ own
  | _ :: _ => .error .malformed

end

end Datum

/-- Reads a document; an empty one is null. -/
def read (text : String) : Except YamlError Datum := do
  match ← Node.ofTokens (← tokens text) with
  | none => return .null
  | some n => Datum.ofNode n

end ViewModel.Yaml
