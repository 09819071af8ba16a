/-!
Wildcards in names: `*` stands for any text, `?` for one character, and brackets for one of a set
or, after `!`, for one outside of it.
-/

namespace ViewModel

/-- One part of a pattern for names. -/
inductive Wildcard
  | star
  | one
  | oneOf (negated : Bool) (ranges : List (Char × Char))
  | exactly (c : Char)
  deriving DecidableEq

namespace Wildcard

/-- Characters and ranges of characters. A range whose ends are the wrong way round is empty. -/
def rangesOf : List Char → List (Char × Char)
  | low :: '-' :: high :: rest =>
      if low ≤ high then (low, high) :: rangesOf rest else rangesOf rest
  | c :: rest => (c, c) :: rangesOf rest
  | [] => []

/-- A set after its opening bracket; a closing bracket that comes first belongs to the set. -/
def set? (cs : List Char) : Option (Wildcard × List Char) :=
  let (negated, body) :=
    match cs with
    | '!' :: rest => (true, rest)
    | _ => (false, cs)
  let (first, rest) :=
    match body with
    | ']' :: rest => ([']'], rest)
    | _ => ([], body)
  let inner := rest.takeWhile (· ≠ ']')
  match rest.drop inner.length with
  | ']' :: after => some (oneOf negated (rangesOf (first ++ inner)), after)
  | _ => none

/-- The parts of a pattern; a bracket that is not closed stands for itself. -/
def parse : Nat → List Char → List Wildcard
  | 0, _ => []
  | _ + 1, [] => []
  | fuel + 1, c :: rest =>
      if c = '*' then star :: parse fuel rest
      else if c = '?' then one :: parse fuel rest
      else if c = '[' then
        match set? rest with
        | some (p, after) => p :: parse fuel after
        | none => exactly c :: parse fuel rest
      else exactly c :: parse fuel rest

def ofText (pattern : String) : List Wildcard := parse pattern.length pattern.toList

/-- Whether a part other than `*` stands for a character. -/
def accepts (c : Char) : Wildcard → Bool
  | star => false
  | one => true
  | oneOf negated ranges => negated != ranges.any (fun r => r.1 ≤ c && c ≤ r.2)
  | exactly d => c = d

/-- Whether a pattern stands for a whole text. -/
def accept : List Wildcard → List Char → Bool
  | [], cs => cs.isEmpty
  | star :: ps, [] => accept ps []
  | star :: ps, c :: cs => accept ps (c :: cs) || accept (star :: ps) cs
  | p :: ps, c :: cs => p.accepts c && accept ps cs
  | _ :: _, [] => false
termination_by ps cs => ps.length + cs.length

end Wildcard

/-- Whether a name has the form of a pattern. -/
def nameMatches (pattern name : String) : Bool :=
  Wildcard.accept (Wildcard.ofText pattern) name.toList

example : (["a.py", "b.txt", "a.pyc"].filter (nameMatches "[!b-z]*.p?")) = ["a.py"] := by
  decide +kernel

end ViewModel
