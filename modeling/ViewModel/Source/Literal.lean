import ViewModel.Source.Token
import ViewModel.Source.Numeral
import ViewModel.Text.CharacterName

/-!
What text literals mean: escapes, and texts that stand side by side.
-/

namespace ViewModel.Source

namespace Literal

def isOctal (c : Char) : Bool := '0' ≤ c && c ≤ '7'

def isHex (c : Char) : Bool := digitValue c < 16

/-- The character of an escape of `width` hexadecimal digits. -/
def hexEscape? (width : Nat) (rest : List Char) : Option (List Char × Nat) :=
  let ds := rest.take width
  if ds.length = width ∧ ds.all isHex then
    let n := digitsValue 16 ds
    if n < 0x110000 then some ([Char.ofNat n], width) else none
  else none

/-- The character of an escape of one to three octal digits. -/
def octalEscape (c : Char) (rest : List Char) : List Char × Nat :=
  let more := (rest.take 2).takeWhile isOctal
  ([Char.ofNat (digitsValue 8 (c :: more))], more.length)

/-- The character of an escape that names it between braces. -/
def namedEscape? (rest : List Char) : Option (List Char × Nat) :=
  match rest with
  | '\x7b' :: rest =>
      let name := rest.takeWhile (· ≠ '\x7d')
      if name.length < rest.length then
        (Text.characterNamed? (String.ofList name)).map (fun c => ([c], name.length + 2))
      else none
  | _ => none

/-- What a backslash and the character after it stand for, and how much more of the text they
take; `none` for a malformed escape. Letters without a meaning keep their backslash. -/
def escape? (c : Char) (rest : List Char) :
    Option (List Char × Nat) :=
  match c with
  | '\n' => some ([], 0)
  | '\\' => some (['\\'], 0)
  | '\'' => some (['\''], 0)
  | '"' => some (['"'], 0)
  | 'a' => some (['\x07'], 0)
  | 'b' => some (['\x08'], 0)
  | 'f' => some (['\x0c'], 0)
  | 'n' => some (['\n'], 0)
  | 'r' => some (['\r'], 0)
  | 't' => some (['\t'], 0)
  | 'v' => some (['\x0b'], 0)
  | 'x' => hexEscape? 2 rest
  | 'u' => hexEscape? 4 rest
  | 'U' => hexEscape? 8 rest
  | 'N' => namedEscape? rest
  | c => some (if isOctal c then octalEscape c rest else (['\\', c], 0))

/-- The text that a body with escapes writes; `none` for a malformed escape. -/
def unescape? : List Char → Option (List Char)
  | [] => some []
  | '\\' :: c :: rest =>
      match escape? c rest with
      | none => none
      | some (written, more) => (unescape? (rest.drop more)).map (written ++ ·)
  | c :: rest => (unescape? rest).map (c :: ·)
termination_by cs => cs.length

/-- Whether a body is one of bytes: ASCII alone, with whole hexadecimal escapes. -/
def isBytes (raw : Bool) : List Char → Bool
  | [] => true
  | '\\' :: c :: rest =>
      c.toNat < 128 && (raw || c ≠ 'x' || (hexEscape? 2 rest).isSome) && isBytes raw rest
  | c :: rest => c.toNat < 128 && isBytes raw rest

/-- The text of a literal that is neither bytes nor formatted. -/
def text? (q : Quote) : Option (List Char) :=
  if q.raw then some q.body else unescape? q.body

end Literal

end ViewModel.Source
