import ViewModel.Number.Displayed
import ViewModel.Value

/-!
The text of a value on a page, and its escape.
-/

namespace ViewModel

namespace Value

mutual

/-- The text of a value: nothing for null, the items of a list with commas between. -/
def display : Value → String
  | null => ""
  | bool b => if b then "true" else "false"
  | int n => intText n
  | float x => x.displayed
  | text s => s
  | list xs => String.intercalate "," (displayItems xs)
  | mapping _ => "[object Object]"
  | record asText _ _ => asText

def displayItems : List Value → List String
  | [] => []
  | v :: rest => display v :: displayItems rest

end

end Value

namespace Markup

/-- What stands for a character that markup gives a meaning. -/
def escapeChar : Char → List Char
  | '&' => "&amp;".toList
  | '<' => "&lt;".toList
  | '>' => "&gt;".toList
  | '"' => "&quot;".toList
  | '\'' => "&#x27;".toList
  | '\x60' => "&#x60;".toList
  | '=' => "&#x3D;".toList
  | c => [c]

def escape (s : String) : String := String.ofList (s.toList.flatMap escapeChar)

end Markup

end ViewModel
