/-!
Line ends: `\r\n` and `\r` count as `\n` in every text that is read by lines.
-/

namespace ViewModel.Text

/-- Every line end written as `\n`. -/
def unifyLineEnds : List Char → List Char
  | [] => []
  | '\r' :: '\n' :: rest => '\n' :: unifyLineEnds rest
  | '\r' :: rest => '\n' :: unifyLineEnds rest
  | c :: rest => c :: unifyLineEnds rest

theorem unifyLineEnds_cons {c : Char} (h : c ≠ '\r') (rest : List Char) :
    unifyLineEnds (c :: rest) = c :: unifyLineEnds rest := by
  rw [unifyLineEnds] <;> simp_all

/-- How many line ends a text has. -/
def newlines (cs : List Char) : Nat := cs.count '\n'

@[simp] theorem newlines_append (a b : List Char) :
    newlines (a ++ b) = newlines a + newlines b := List.count_append

end ViewModel.Text
