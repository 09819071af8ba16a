import ViewModel.Text.Hex
import ViewModel.Text.Printable

/-!
Quoted text: a text between quotes, with every character that would not show written as an escape.
-/

namespace ViewModel.Text

namespace Quoted

/-- The apostrophe, unless the text has one and has no double quote. -/
def mark (cs : List Char) : Char := if '\'' ∈ cs ∧ '"' ∉ cs then '"' else '\''

def escape (quote c : Char) : List Char :=
  if c = quote ∨ c = '\\' then ['\\', c]
  else if c = '\n' then ['\\', 'n']
  else if c = '\r' then ['\\', 'r']
  else if c = '\t' then ['\\', 't']
  else if isPrintable c then [c]
  else if c.toNat < 0x100 then '\\' :: 'x' :: hex 2 c.toNat
  else if c.toNat < 0x10000 then '\\' :: 'u' :: hex 4 c.toNat
  else '\\' :: 'U' :: hex 8 c.toNat

def encode (cs : List Char) : List Char :=
  let quote := mark cs
  quote :: cs.flatMap (escape quote) ++ [quote]

end Quoted

def quoted (s : String) : String := String.ofList (Quoted.encode s.toList)

end ViewModel.Text
