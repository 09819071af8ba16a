/-!
The words of an identifier in snake, camel or Pascal case, and names made of them. Words are runs
of ASCII letters and digits; a capital starts a word unless more capitals follow it.
-/

namespace ViewModel.Text

def isUpperLetter (c : Char) : Bool := 'A' ≤ c && c ≤ 'Z'

/-- A small letter or a digit. -/
def isLowerPart (c : Char) : Bool := ('a' ≤ c && c ≤ 'z') || ('0' ≤ c && c ≤ '9')

def isWordLetter (c : Char) : Bool := isUpperLetter c || isLowerPart c

/-- Whether the word of `c` goes on with what follows. Of several capitals before a small letter,
the last one belongs to the next word. -/
def continues (c : Char) : List Char → Bool
  | [] => false
  | d :: after =>
      isLowerPart d || (isUpperLetter d && isUpperLetter c && !after.head?.any isLowerPart)

/-- Puts a character before the first word. -/
def consFirst (c : Char) : List (List Char) → List (List Char)
  | [] => [[c]]
  | w :: ws => (c :: w) :: ws

/-- The words of an identifier in order; other characters only separate them. -/
def words : List Char → List (List Char)
  | [] => []
  | c :: rest =>
      if !isWordLetter c then words rest
      else if continues c rest then consFirst c (words rest)
      else [c] :: words rest

def capitalize : List Char → List Char
  | [] => []
  | c :: rest => c.toUpper :: rest

def uncapitalize : List Char → List Char
  | [] => []
  | c :: rest => c.toLower :: rest

def pascalCase (cs : List Char) : List Char := (words cs).flatMap capitalize

def camelCase (cs : List Char) : List Char := uncapitalize (pascalCase cs)

def snakeCase (cs : List Char) : List Char :=
  ['_'].intercalate ((words cs).map (·.map Char.toLower))

end ViewModel.Text
