import ViewModel.Text.Ranges

/-!
White space of every script, and its removal from the ends of a text.
-/

namespace ViewModel.Text

def blankRanges : List (Nat × Nat) :=
  [(0x9, 0xD), (0x1C, 0x20), (0x85, 0x85), (0xA0, 0xA0), (0x1680, 0x1680), (0x2000, 0x200A),
   (0x2028, 0x2029), (0x202F, 0x202F), (0x205F, 0x205F), (0x3000, 0x3000)]

/-- White space: separators of lines, paragraphs and words. -/
def isBlank (c : Char) : Bool := inRanges blankRanges c.toNat

def trimStart (cs : List Char) : List Char := cs.dropWhile isBlank

def trimEnd (cs : List Char) : List Char := (cs.reverse.dropWhile isBlank).reverse

/-- Without the white space at both ends. -/
def trim (cs : List Char) : List Char := trimEnd (trimStart cs)

end ViewModel.Text
