import ViewModel.Value
import ViewModel.Text.Lines

/-!
Reading JSON text. White space is the space, tab, line feed and carriage return; `NaN`,
`Infinity` and `-Infinity` are numbers; of two members of one name the last counts. A fault names
what was expected and the place where it was.
-/

namespace ViewModel.Json

inductive Reason
  | value
  | memberName
  | colon
  | comma
  | unterminated
  | control
  | escape
  | codePoint
  | trailing
  | byteOrderMark
  deriving DecidableEq

def Reason.text : Reason → String
  | value => "Expecting value"
  | memberName => "Expecting property name enclosed in double quotes"
  | colon => "Expecting ':' delimiter"
  | comma => "Expecting ',' delimiter"
  | unterminated => "Unterminated string starting at"
  | control => "Invalid control character at"
  | escape => "Invalid \\escape"
  | codePoint => "Invalid \\uXXXX escape"
  | trailing => "Extra data"
  | byteOrderMark => "Unexpected UTF-8 BOM (decode using utf-8-sig)"

/-- A fault while reading: `rest` characters were left. Whole numbers of more than 4300 digits are
refused whatever follows them. -/
inductive Fault
  | at (reason : Reason) (rest : Nat)
  | tooManyDigits

def isSpace (c : Char) : Bool := c = ' ' || c = '\t' || c = '\n' || c = '\r'

def skipSpace (cs : List Char) : List Char := cs.dropWhile isSpace

def isHighSurrogate (n : Nat) : Bool := 0xD800 ≤ n && n < 0xDC00

def isLowSurrogate (n : Nat) : Bool := 0xDC00 ≤ n && n < 0xE000

/-- The four digits after `\u`, where at least one more character must follow them. -/
def codeUnit (cs : List Char) : Except Fault (Nat × List Char) :=
  if cs.length < 5 then .error (.at .codePoint (cs.length + 1))
  else
    match Text.hexValue? (cs.take 4) with
    | some n => .ok (n, cs.drop 4)
    | none => .error (.at .codePoint (cs.length + 1))

/-- The character after `\u`: two escapes that make up a surrogate pair are one character. -/
def codePoint (cs : List Char) : Except Fault (Char × List Char) := do
  let (n, r) ← codeUnit cs
  match r with
  | '\\' :: 'u' :: r' =>
      if isHighSurrogate n && 5 ≤ r'.length then
        match Text.hexValue? (r'.take 4) with
        | none => .error (.at .codePoint (r'.length + 1))
        | some low =>
            if isLowSurrogate low then
              .ok (Text.character (0x10000 + (n - 0xD800) * 0x400 + (low - 0xDC00)), r'.drop 4)
            else .ok (Text.character n, r)
      else .ok (Text.character n, r)
  | _ => .ok (Text.character n, r)

def shortEscape? : Char → Option Char
  | '"' => some '"'
  | '\\' => some '\\'
  | '/' => some '/'
  | 'b' => some '\x08'
  | 'f' => some '\x0c'
  | 'n' => some '\n'
  | 'r' => some '\r'
  | 't' => some '\t'
  | _ => none

/-- The rest of a string whose opening quote had `opening` characters left, itself included. -/
def stringBody (opening : Nat) : Nat → List Char → List Char → Except Fault (String × List Char)
  | 0, _, _ => .error (.at .unterminated opening)
  | _ + 1, _, [] => .error (.at .unterminated opening)
  | fuel + 1, acc, c :: rest =>
      if c = '"' then .ok (String.ofList acc.reverse, rest)
      else if c.toNat < 0x20 then .error (.at .control (rest.length + 1))
      else if c ≠ '\\' then stringBody opening fuel (c :: acc) rest
      else
        match rest with
        | [] => .error (.at .unterminated opening)
        | 'u' :: digits => do
            let (d, r) ← codePoint digits
            stringBody opening fuel (d :: acc) r
        | e :: r =>
            match shortEscape? e with
            | some d => stringBody opening fuel (d :: acc) r
            | none => .error (.at .escape (rest.length + 1))

/-- A string after its opening quote. -/
def string (cs : List Char) : Except Fault (String × List Char) :=
  stringBody (cs.length + 1) (cs.length + 1) [] cs

/-- The digits of a number without a leading zero. -/
def wholeDigits (cs : List Char) : List Char × List Char :=
  match cs with
  | '0' :: rest => (['0'], rest)
  | _ => cs.span Char.isDigit

/-- The fraction with its point, where a digit follows the point. -/
def fractionDigits : List Char → List Char × List Char
  | '.' :: rest =>
      match rest.span Char.isDigit with
      | ([], _) => ([], '.' :: rest)
      | (ds, r) => (ds, r)
  | cs => ([], cs)

def exponentPart (cs : List Char) : Option Int × List Char :=
  match cs with
  | 'e' :: rest | 'E' :: rest =>
      let (negative, unsigned) := takeSign rest
      match unsigned.span Char.isDigit with
      | ([], _) => (none, cs)
      | (ds, r) => (some (Double.signed negative (Nat.ofDigitChars 10 ds 0)), r)
  | _ => (none, cs)

/-- A number; `start` is what is left where the value starts. -/
def number (start : Nat) (negative : Bool) (cs : List Char) : Except Fault (Value × List Char) :=
  match wholeDigits cs with
  | ([], _) => .error (.at .value start)
  | (whole, r) =>
      let (fraction, r) := fractionDigits r
      let (exponent, r) := exponentPart r
      if fraction.isEmpty ∧ exponent.isNone then
        if 4300 < whole.length then .error .tooManyDigits
        else .ok (.int (Double.signed negative (Nat.ofDigitChars 10 whole 0)), r)
      else
        .ok (.float (Double.ofDecimal negative (Nat.ofDigitChars 10 (whole ++ fraction) 0)
          (exponent.getD 0 - fraction.length)), r)

/-- The rest of a text after a word it starts with. -/
def after? (word : String) (cs : List Char) : Option (List Char) :=
  if word.toList.isPrefixOf cs then some (cs.drop word.toList.length) else none

def words : List (String × Value) :=
  [("null", .null), ("true", .bool true), ("false", .bool false), ("NaN", .float .nan),
    ("Infinity", .float (.infinite false)), ("-Infinity", .float (.infinite true))]

mutual

def value : Nat → List Char → Except Fault (Value × List Char)
  | 0, cs => .error (.at .value cs.length)
  | fuel + 1, cs =>
      match cs with
      | '"' :: rest => do
          let (s, r) ← string rest
          .ok (.text s, r)
      | '\x7b' :: rest =>
          match skipSpace rest with
          | '\x7d' :: r => .ok (.mapping [], r)
          | r => do
              let (es, r) ← members fuel r
              .ok (.mapping (Entries.ofList es), r)
      | '[' :: rest =>
          match skipSpace rest with
          | ']' :: r => .ok (.list [], r)
          | r => do
              let (vs, r) ← elements fuel r
              .ok (.list vs, r)
      | _ =>
          match words.findSome? (fun w => (after? w.1 cs).map (fun r => (w.2, r))) with
          | some found => .ok found
          | none =>
              match cs with
              | '-' :: unsigned => number cs.length true unsigned
              | _ => number cs.length false cs

/-- The items of an array, from the first item to the closing bracket. -/
def elements : Nat → List Char → Except Fault (List Value × List Char)
  | 0, cs => .error (.at .value cs.length)
  | fuel + 1, cs => do
      let (v, r) ← value fuel cs
      match skipSpace r with
      | ']' :: r => .ok ([v], r)
      | ',' :: r => do
          let (vs, r) ← elements fuel (skipSpace r)
          .ok (v :: vs, r)
      | r => .error (.at .comma r.length)

/-- The members of an object, from the first name to the closing brace. -/
def members : Nat → List Char → Except Fault (List (String × Value) × List Char)
  | 0, cs => .error (.at .memberName cs.length)
  | fuel + 1, cs =>
      match cs with
      | '"' :: rest => do
          let (name, r) ← string rest
          match skipSpace r with
          | ':' :: r => do
              let (v, r) ← value fuel (skipSpace r)
              match skipSpace r with
              | '\x7d' :: r => .ok ([(name, v)], r)
              | ',' :: r => do
                  let (es, r) ← members fuel (skipSpace r)
                  .ok ((name, v) :: es, r)
              | r => .error (.at .comma r.length)
          | r => .error (.at .colon r.length)
      | _ => .error (.at .memberName cs.length)

end

/-- A whole document. Every call takes a character or is followed by one that does, so twice the
length of the text is enough fuel. -/
def document (cs : List Char) : Except Fault Value :=
  if cs.head? = some '\uFEFF' then .error (.at .byteOrderMark cs.length)
  else do
    let (v, r) ← value (2 * cs.length + 2) (skipSpace cs)
    match skipSpace r with
    | [] => .ok v
    | r => .error (.at .trailing r.length)

end ViewModel.Json

namespace ViewModel

/-- Where and why a text is not JSON; offsets count from zero, lines and columns from one. -/
inductive JsonError
  | malformed (reason : Json.Reason) (line column offset : Nat)
  | tooManyDigits

namespace JsonError

/-- The fault at an offset, with the line and column of that place. -/
def locate (text : List Char) (reason : Json.Reason) (offset : Nat) : JsonError :=
  let before := text.take offset
  let onLine := (before.reverse.takeWhile (· ≠ '\n')).length
  malformed reason (1 + Text.newlines before) (1 + onLine) offset

def message : JsonError → String
  | malformed reason line column offset =>
      reason.text ++ ": line " ++ natText line ++ " column " ++ natText column ++
        " (char " ++ natText offset ++ ")"
  | tooManyDigits => "a whole number has too many digits"

end JsonError

namespace Json

/-- Reads a JSON document. -/
def read (s : String) : Except JsonError Value :=
  let cs := s.toList
  match document cs with
  | .ok v => .ok v
  | .error (.at reason rest) => .error (JsonError.locate cs reason (cs.length - rest))
  | .error .tooManyDigits => .error .tooManyDigits

end Json

end ViewModel
