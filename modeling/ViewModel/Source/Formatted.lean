import ViewModel.Source.Literal
import ViewModel.Source.Scanner

/-!
Formatted texts: which parts of the body are literal and which are expressions.
-/

namespace ViewModel.Source

namespace Formatted

/-- Splits off the literal text at the front, up to a brace that has a meaning of its own. Outside
format specifications a brace written twice stands for itself; inside the name of a character
braces mean nothing. -/
def literalPart? (raw nested : Bool) (inName : Bool) : List Char → Option (List Char × List Char)
  | [] => some ([], [])
  | c :: rest =>
      let go (inName : Bool) (n : Nat) : Option (List Char × List Char) :=
        (literalPart? raw nested inName (rest.drop n)).map
          (fun (l, r) => (c :: rest.take n ++ l, r))
      if inName then go (c ≠ '\x7d') 0
      else if !raw && c = '\\' && rest.take 2 = ['N', '\x7b'] then go true 2
      else if !raw && c = '\\' && rest.head?.any (fun d => d ≠ '\x7b' && d ≠ '\x7d') then go false 1
      else if c = '\x7b' || c = '\x7d' then
        if !nested && rest.head? = some c then go false 1
        else if !nested && c = '\x7d' then none
        else some ([], c :: rest)
      else go false 0
termination_by cs => cs.length

/-- Where the walk over an expression is: inside a text literal, and in which brackets. -/
structure Cursor where
  mark : Option (Char × Bool)
  brackets : List Char

/-- Splits off the expression at the front, up to what ends it outside brackets and texts. -/
def expressionPart? (at' : Cursor) : List Char → Option (List Char × List Char)
  | [] => none
  | c :: rest =>
      let go (at' : Cursor) (n : Nat) : Option (List Char × List Char) :=
        (expressionPart? at' (rest.drop n)).map (fun (e, r) => (c :: rest.take n ++ e, r))
      if c = '\\' then none
      else
        match at'.mark with
        | some (q, long) =>
            if c ≠ q then go at' 0
            else if !long then go { at' with mark := none } 0
            else if rest.take 2 = [q, q] then go { at' with mark := none } 2
            else go at' 0
        | none =>
            if Scanner.isQuoteMark c then
              if rest.take 2 = [c, c] then go { at' with mark := some (c, true) } 2
              else go { at' with mark := some (c, false) } 0
            else if c ∈ ['(', '[', '\x7b'] then
              if 200 ≤ at'.brackets.length then none
              else go { at' with brackets := c :: at'.brackets } 0
            else if c = '#' then none
            else if at'.brackets.isEmpty && c ∈ ['!', ':', '\x7d', '=', '>', '<'] then
              if c ∈ ['!', '=', '>', '<'] && rest.head? = some '=' then go at' 1
              else if c = '>' || c = '<' then go at' 0
              else some ([], c :: rest)
            else if c ∈ [')', ']', '\x7d'] then
              match at'.brackets with
              | o :: outer =>
                  if Scanner.closes o c then go { at' with brackets := outer } 0 else none
              | [] => none
            else go at' 0
termination_by cs => cs.length

/-- Whether nothing but white space stands here. -/
def isEmptyExpression (e : List Char) : Bool :=
  e.all (fun c => c = ' ' || c = '\t' || c = '\n' || c = '\x0c')

/-- The conversion after an expression, if there is one. -/
def skipConversion? : List Char → Option (List Char)
  | '!' :: c :: rest => if c ∈ ['s', 'r', 'a'] then some rest else none
  | ['!'] => none
  | rest => some rest

/-- The expressions of a body at one level of nesting, and what is left at its end. -/
def expressions? (raw : Bool) : Nat → Nat → List Char → Option (List (List Char) × List Char)
  | 0, _, _ => none
  | fuel + 1, level, cs => do
      let (literal, rest) ← literalPart? raw (level ≠ 0) false cs
      if !raw then let _ ← Literal.unescape? literal
      match rest with
      | '\x7b' :: rest =>
          if 2 ≤ level then none
          let (e, rest) ← expressionPart? ⟨none, []⟩ rest
          if isEmptyExpression e then none
          let rest :=
            match rest with
            | '=' :: r => r.dropWhile (fun c => c = ' ' || ('\t' ≤ c && c ≤ '\r'))
            | r => r
          let rest ← skipConversion? rest
          let (inner, rest) ←
            match rest with
            | ':' :: r => expressions? raw fuel (level + 1) r
            | r => some ([], r)
          match rest with
          | '\x7d' :: rest =>
              let (more, rest) ← expressions? raw fuel level rest
              return (e :: inner ++ more, rest)
          | _ => none
      | rest => return ([], rest)

end Formatted

/-- The expressions inside the body of a formatted text; `none` if it is malformed. -/
def formattedExpressions? (q : Quote) : Option (List (List Char)) :=
  match Formatted.expressions? q.raw (q.body.length + 1) 0 q.body with
  | some (es, []) => some es
  | _ => none

end ViewModel.Source
