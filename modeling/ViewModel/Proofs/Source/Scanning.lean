import Mathlib.Data.Bool.AllAny
import Mathlib.Data.List.TakeDrop
import Mathlib.Data.List.TakeWhile
import Mathlib.Tactic.Tauto
import ViewModel.Source.Statement

/-!
Scanning the front of a text with the rest of it present. A word ends before whatever is no part of
one, and no text literal starts there unless that is a quote mark. Pieces of a text that are scanned
one after the other are scanned as a whole.
-/

namespace ViewModel.Source

section Characters

variable {c : Char}

theorem isWordStart_of_isIdentifierStart (h : Text.isIdentifierStart c = true) :
    isWordStart c = true := by
  have hascii : ∀ n < 128, Text.inRanges Text.identifierStartRanges n = true →
      isWordStart (Char.ofNat n) = true := by decide
  by_cases hc : 128 ≤ c.toNat
  · simp [isWordStart, hc]
  · simpa using hascii c.toNat (by omega) h

theorem isWordPart_of_isIdentifierPart (h : Text.isIdentifierPart c = true) :
    isWordPart c = true := by
  have hascii : ∀ n < 128, Text.inRanges Text.identifierPartRanges n = true →
      isWordPart (Char.ofNat n) = true := by decide
  by_cases hc : 128 ≤ c.toNat
  · simp [isWordPart, hc]
  · simpa using hascii c.toNat (by omega) h

/-- A letter starts a word if the small one does. -/
theorem isWordStart_of_toLower (h : isWordStart c.toLower = true) : isWordStart c = true := by
  have hascii : ∀ n < 128, isWordStart (Char.ofNat n).toLower = true →
      isWordStart (Char.ofNat n) = true := by decide
  by_cases hc : 128 ≤ c.toNat
  · simp [isWordStart, hc]
  · simpa using hascii c.toNat (by omega) (by simpa using h)

theorem isWordPart_of_isWordStart (h : isWordStart c = true) : isWordPart c = true := by
  simp only [isWordStart, isWordPart, Char.isAlphanum, Bool.or_eq_true] at h ⊢
  tauto

theorem isWordPart_of_isDigit (h : c.isDigit = true) : isWordPart c = true := by
  simp [isWordPart, Char.isAlphanum, h]

/-- A digit starts no word. -/
theorem isWordStart_of_isDigit (h : c.isDigit = true) : isWordStart c = false := by
  have hdigit : ∀ n < 128, (Char.ofNat n).isDigit = true → isWordStart (Char.ofNat n) = false := by
    decide
  have hlow : c.toNat < 128 := by
    have hnine := of_decide_eq_true (Bool.and_eq_true_iff.mp h).2
    exact Nat.lt_of_le_of_lt hnine (by decide)
  simpa using hdigit c.toNat hlow (by simpa using h)

/-- An identifier is made of the characters of words. -/
theorem Scanner.word_of_isIdentifier {cs : List Char} (h : isIdentifier cs = true) :
    ∃ c rest, cs = c :: rest ∧ isWordStart c = true ∧ ∀ d ∈ cs, isWordPart d = true := by
  cases cs with
  | nil => cases h
  | cons c rest =>
    obtain ⟨hc, hrest⟩ := Bool.and_eq_true_iff.mp h
    have hstart := isWordStart_of_isIdentifierStart hc
    refine ⟨c, rest, rfl, hstart, List.forall_mem_cons.mpr ⟨isWordPart_of_isWordStart hstart, ?_⟩⟩
    exact fun d hd => isWordPart_of_isIdentifierPart (List.all_eq_true.mp hrest d hd)

theorem Scanner.isQuoteMark_of_isWordPart (h : isWordPart c = true) : isQuoteMark c = false := by
  by_contra hmark
  have hquote : c = '\'' ∨ c = '"' := by
    simpa only [isQuoteMark, Bool.not_eq_false, Bool.or_eq_true, decide_eq_true_eq] using hmark
  rcases hquote with rfl | rfl <;> exact absurd h (by decide)

theorem spanned {cs rest : List Char} (hcs : ∀ c ∈ cs, isWordPart c = true)
    (hrest : ∀ c ∈ rest.head?, isWordPart c = false) :
    (cs ++ rest).takeWhile isWordPart = cs ∧ (cs ++ rest).dropWhile isWordPart = rest := by
  rw [List.takeWhile_append_of_pos hcs, List.dropWhile_append_of_pos hcs]
  cases rest with
  | nil => simp
  | cons c rest => simp [hrest c rfl]

end Characters

namespace Scanner

variable {s s' s'' : Scanner} {cs r r' : List Char} {c : Char} {l : Lexeme} {w : String}
  {t : Token} {ts ts' : List Token}

/-- No word goes on here, and no letters of one stand before a quote mark. -/
def EndsWord (r : List Char) : Prop :=
  r.head?.any (fun c => isWordPart c || isQuoteMark c) = false

theorem EndsWord.not_part (h : EndsWord r) : ∀ c ∈ r.head?, isWordPart c = false := by
  intro c hc
  have hnone : (isWordPart c || isQuoteMark c) = false := by
    rw [EndsWord, Option.mem_def.mp hc] at h
    exact h
  exact (Bool.or_eq_false_iff.mp hnone).1

/-- Where a text literal starts, a quote mark comes right after letters of a word. -/
theorem exists_of_quoteStart? {n : Nat} (h : quoteStart? cs = some n) :
    ∃ w m r, cs = w ++ m :: r ∧ (∀ c ∈ w, isWordStart c = true) ∧ isQuoteMark m = true := by
  have hstart := List.find?_some h
  obtain ⟨hmark, hletters⟩ := Bool.and_eq_true_iff.mp hstart
  obtain ⟨m, hm, hmark⟩ := (Option.any_eq_true _ _).mp hmark
  obtain ⟨hn, rfl⟩ := List.getElem?_eq_some_iff.mp hm
  refine ⟨cs.take n, cs[n], cs.drop (n + 1), ?_, fun c hc => ?_, hmark⟩
  · rw [← List.drop_eq_getElem_cons hn, List.take_append_drop]
  · have hletter : ∀ w ∈ quotePrefixes, w.all isWordStart = true := by decide
    have hall := List.all_eq_true.mp
      (hletter ((cs.take n).map Char.toLower) (by simpa using hletters))
    exact isWordStart_of_toLower (hall c.toLower (List.mem_map_of_mem hc))

theorem quoteStart?_eq_none {cs : List Char} (hcs : ∀ c ∈ cs, isWordPart c = true)
    (hr : EndsWord r) : quoteStart? (cs ++ r) = none := by
  by_contra hsome
  obtain ⟨n, hn⟩ := Option.ne_none_iff_exists'.mp hsome
  obtain ⟨w, m, r', heq, hw, hm⟩ := exists_of_quoteStart? hn
  have hpart : isWordPart m = false := by
    by_contra hpart
    rw [isQuoteMark_of_isWordPart (Bool.not_eq_false _ ▸ hpart)] at hm
    cases hm
  have hdrop := (spanned hcs hr.not_part).2
  have hw : ∀ c ∈ w, isWordPart c = true := fun c hc => isWordPart_of_isWordStart (hw c hc)
  rw [heq, (spanned hw (by simpa using hpart)).2] at hdrop
  rw [EndsWord, ← hdrop] at hr
  simp [hm] at hr

theorem quoteStart?_of_endsWord (hr : EndsWord r) : quoteStart? r = none :=
  quoteStart?_eq_none (List.forall_mem_nil _) hr

/-- A word ends before a character that is no part of one. -/
theorem token_word (hw : isIdentifier w.toList = true) (hr : EndsWord r) :
    s.token (w.toList ++ r) = .ok (s.lexeme (.word w), s, r) := by
  obtain ⟨c, rest, hcs, hstart, hparts⟩ := word_of_isIdentifier hw
  have hspan : (w.toList ++ r).span isWordPart = (w.toList, r) := by
    obtain ⟨htake, hdrop⟩ := spanned hparts hr.not_part
    rw [List.span_eq_takeWhile_dropWhile, htake, hdrop]
  have hquote := quoteStart?_eq_none hparts hr
  rw [hcs] at hspan hquote ⊢
  simp only [token, List.cons_append] at hspan hquote ⊢
  rw [hquote]
  simp only [hstart, if_true, hspan]
  rw [← hcs, hw, Bool.or_true, if_pos rfl, String.ofList_toList]

theorem quoteStart?_of_isDigit (hc : c.isDigit = true) : quoteStart? (c :: cs) = none := by
  by_contra hsome
  obtain ⟨n, hn⟩ := Option.ne_none_iff_exists'.mp hsome
  obtain ⟨w, m, r, heq, hw, hm⟩ := exists_of_quoteStart? hn
  cases w with
  | nil =>
    obtain ⟨rfl, -⟩ := List.cons.inj heq
    rw [isQuoteMark_of_isWordPart (isWordPart_of_isDigit hc)] at hm
    cases hm
  | cons d w =>
    obtain ⟨rfl, -⟩ := List.cons.inj heq
    have hstart := hw c List.mem_cons_self
    rw [isWordStart_of_isDigit hc] at hstart
    cases hstart

theorem token_number (hc : c.isDigit = true) (h : numeral? (c :: cs) = some (t, r)) :
    s.token (c :: cs) = .ok (s.lexeme t, s, r) := by
  simp [token, quoteStart?_of_isDigit hc, isWordStart_of_isDigit hc, hc, h]

/-- A symbol is read where none of the longer ones that start with it goes on as the text does. -/
theorem symbol_append (hw : w.length = 1 ∨ w ∈ pairSymbols)
    (hr : ∀ long ∈ longSymbols ++ pairSymbols, ∀ c ∈ r.head?,
      (w.toList ++ [c]).isPrefixOf long.toList = false) :
    symbol (w.toList ++ r) = (w, r) := by
  have hlonger : ∀ long ∈ longSymbols ++ pairSymbols, w.length < long.length →
      String.ofList ((w.toList ++ r).take long.length) ≠ long := by
    intro long hmem hlength heq
    cases r with
    | nil =>
      rw [List.append_nil, List.take_of_length_le (by rw [String.length_toList]; omega),
        String.ofList_toList] at heq
      rw [heq] at hlength
      exact absurd hlength (Nat.lt_irrefl _)
    | cons c r =>
      have hprefix : w.toList ++ [c] <+: long.toList := by
        rw [← heq, String.toList_ofList, List.prefix_take_iff]
        exact ⟨⟨r, by simp⟩, by simp only [List.length_append, String.length_toList]; exact hlength⟩
      have hno := hr long hmem c rfl
      rw [List.isPrefixOf_iff_prefix.mpr hprefix] at hno
      cases hno
  have hlong : ∀ long ∈ longSymbols, long.length = 3 := by decide
  have hpair : ∀ pair ∈ pairSymbols, pair.length = 2 := by decide
  have htext : String.ofList ((w.toList ++ r).take w.length) = w := by
    rw [← String.length_toList, List.take_left, String.ofList_toList]
  have hrest : (w.toList ++ r).drop w.length = r := by
    rw [← String.length_toList, List.drop_left]
  have hlow : w.length ≤ 2 := by
    rcases hw with hw | hw
    · omega
    · exact (hpair w hw).le
  have hnolong : String.ofList ((w.toList ++ r).take 3) ∉ longSymbols := by
    intro hmem
    have hthree := hlong _ hmem
    exact hlonger _ (List.mem_append_left _ hmem) (by omega) (by rw [hthree])
  rw [symbol, if_neg (by simpa using hnolong)]
  rcases hw with hone | hmem
  · have hnopair : String.ofList ((w.toList ++ r).take 2) ∉ pairSymbols := by
      intro hmem
      have htwo := hpair _ hmem
      exact hlonger _ (List.mem_append_right _ hmem) (by omega) (by rw [htwo])
    rw [if_neg (by simpa using hnopair), ← hone, htext, hrest]
  · rw [← hpair w hmem, htext, hrest, if_pos (by simpa using hmem)]

/-- What is no word, number or text is a symbol, if its brackets may be opened or closed here. -/
theorem token_symbol (hc : isWordStart c = false) (hdigit : c.isDigit = false)
    (hpoint : c = '.' → cs.head?.any Char.isDigit = false) (hprintable : Text.isPrintable c = true)
    (hquote : quoteStart? (c :: cs) = none) (hsymbol : symbol (c :: cs) = (w, r)) :
    s.token (c :: cs) =
      match s.track? c with
      | none => .error (s.fault true)
      | some s' => .ok (s'.lexeme (.symbol w), s', r) := by
  have hnumber : (c.isDigit || (decide (c = '.') && cs.head?.any Char.isDigit)) = false := by
    by_cases h : c = '.' <;> simp [hdigit, h, hpoint]
  rw [token, hquote]
  cases s.track? c <;>
    simp only [hc, hnumber, hsymbol, hprintable, Bool.false_eq_true, if_false, if_true]

section Brackets

def opening : List Char := ['(', '[', '\x7b']

def closing : List Char := [')', ']', '\x7d']

/-- A bracket is a token if it may be opened or closed here. -/
theorem token_bracket (hc : c ∈ opening ++ closing) :
    s.token (c :: r) =
      match s.track? c with
      | none => .error (s.fault true)
      | some s' => .ok (s'.lexeme (.symbol (String.ofList [c])), s', r) := by
  have hplain : ∀ c ∈ opening ++ closing, isWordStart c = false ∧ c.isDigit = false ∧ c ≠ '.' ∧
      Text.isPrintable c = true ∧ (isWordPart c || isQuoteMark c) = false :=
    List.all_iff_forall_prop.mp (by decide)
  obtain ⟨hword, hdigit, hpoint, hprintable, hends⟩ := hplain c hc
  -- no symbol goes on after a bracket
  have hsymbol : symbol ((String.ofList [c]).toList ++ r) = (String.ofList [c], r) := by
    refine symbol_append (.inl (by simp)) fun long hlong d _ => ?_
    have hstarts : ∀ c ∈ opening ++ closing, ∀ long ∈ longSymbols ++ pairSymbols,
        long.toList.head? ≠ some c := List.all_iff_forall_prop.mp (by decide)
    cases hcs : long.toList with
    | nil => simp
    | cons e es =>
      have hne : c ≠ e := fun heq => hstarts c hc long hlong (by simp [hcs, heq])
      simp [List.isPrefixOf, hne]
  rw [String.toList_ofList] at hsymbol
  exact token_symbol hword hdigit (fun h => absurd h hpoint) hprintable
    (quoteStart?_of_endsWord hends) hsymbol

/-- The scanner inside one more bracket. -/
def opened (s : Scanner) (c : Char) : Scanner := { s with brackets := (c, s.line) :: s.brackets }

@[simp] theorem length_opened (s : Scanner) (c : Char) :
    (s.opened c).brackets.length = s.brackets.length + 1 := rfl

theorem track?_open (hc : c ∈ opening) :
    s.track? c = if 200 ≤ s.brackets.length then none else some (s.opened c) := if_pos hc

theorem track?_close {d : Char} (h : closes c d = true) : (s.opened c).track? d = some s := by
  have hpair : (c, d) ∈ [('(', ')'), ('[', ']'), ('\x7b', '\x7d')] := of_decide_eq_true h
  simp only [List.mem_cons, Prod.mk.injEq, List.not_mem_nil, or_false] at hpair
  rcases hpair with ⟨rfl, rfl⟩ | ⟨rfl, rfl⟩ | ⟨rfl, rfl⟩ <;> rfl

end Brackets

/-- White space and what continues or comments a line. -/
def special : List Char := [' ', '\t', '\x0c', '#', '\\', '\n']

/-- Neither words nor numbers start with a special character. -/
theorem not_special_of_isWordPart (h : isWordPart c = true) : c ∉ special := by
  intro hc
  have hnone : special.all (fun d => !isWordPart d) = true := by decide
  have hno := List.all_eq_true.mp hnone c hc
  rw [h] at hno
  cases hno

/-- What no other token starts with than a symbol that is no bracket. -/
def isSign (c : Char) : Bool :=
  Text.isPrintable c && !(isWordPart c || isQuoteMark c || special.contains c ||
    (opening ++ closing).contains c)

/-- What starts with no special character is a token. -/
theorem run_token {fuel : Nat} (hc : c ∉ special) :
    run (fuel + 1) false s (c :: cs) =
      match s.token (c :: cs) with
      | .error f => ⟨[], some f⟩
      | .ok (l, s', r) =>
          { run fuel false s' r with lexemes := l :: (run fuel false s' r).lexemes } := by
  simp only [special, List.mem_cons, List.not_mem_nil, or_false, not_or] at hc
  -- besides the two ends it is left to show that no earlier pattern of the scanner matches
  cases htoken : s.token (c :: cs) <;> rw [run, htoken] <;> simp_all

/-- From `cs` on the scanner takes the tokens `ts`, and then it is at `r` in the state `s'`. -/
structure Scans (s : Scanner) (cs : List Char) (s' : Scanner) (r : List Char) (ts : List Token) :
    Prop where
  length : ts.length + r.length ≤ cs.length
  run : ∀ fuel, cs.length < fuel → ∃ fuel', r.length < fuel' ∧
    (run fuel false s cs).lexemes.map Lexeme.token =
      ts ++ (run fuel' false s' r).lexemes.map Lexeme.token

namespace Scans

theorem refl (s : Scanner) (r : List Char) : Scans s r s r [] :=
  ⟨by simp, fun fuel hfuel => ⟨fuel, hfuel, rfl⟩⟩

theorem trans (h : Scans s cs s' r ts) (h' : Scans s' r s'' r' ts') :
    Scans s cs s'' r' (ts ++ ts') where
  length := by
    have hlength := h.length
    have hlength' := h'.length
    rw [List.length_append]
    omega
  run fuel hfuel := by
    obtain ⟨fuel', hfuel', hrun⟩ := h.run fuel hfuel
    obtain ⟨fuel'', hfuel'', hrun'⟩ := h'.run fuel' hfuel'
    exact ⟨fuel'', hfuel'', by rw [hrun, hrun', List.append_assoc]⟩

theorem blank (s : Scanner) (r : List Char) : Scans s (' ' :: r) s r [] where
  length := by simp
  run fuel hfuel := by
    obtain ⟨fuel, rfl⟩ := Nat.exists_eq_add_of_lt (Nat.zero_lt_of_lt hfuel)
    exact ⟨0 + fuel, by simpa using hfuel, rfl⟩

/-- One token, where no special character stands. -/
theorem token (hcs : cs = c :: r') (hc : c ∉ special)
    (h : s.token (cs ++ r) = .ok (s'.lexeme t, s', r)) : Scans s (cs ++ r) s' r [t] where
  length := by
    simp only [hcs, List.cons_append, List.length_cons, List.length_append, List.length_nil]
    omega
  run fuel hfuel := by
    subst hcs
    obtain ⟨fuel, rfl⟩ := Nat.exists_eq_add_of_lt (Nat.zero_lt_of_lt hfuel)
    refine ⟨0 + fuel, ?_, ?_⟩
    · simp only [List.cons_append, List.length_cons, List.length_append] at hfuel
      omega
    · rw [List.cons_append] at h ⊢
      rw [run_token hc, h]
      rfl

theorem word (hw : isIdentifier w.toList = true) (hr : EndsWord r) :
    Scans s (w.toList ++ r) s r [.word w] := by
  obtain ⟨c, rest, hcs, hstart, -⟩ := word_of_isIdentifier hw
  exact token hcs (not_special_of_isWordPart (isWordPart_of_isWordStart hstart)) (token_word hw hr)

/-- Before a word or a blank a symbol is one token; a point has no digit after it. -/
theorem symbol (hw : w.length = 1 ∨ w ∈ pairSymbols) (hsign : w.toList.head?.any isSign = true)
    (hpoint : w.toList.head? = some '.' → (w.toList ++ r).tail.head?.any Char.isDigit = false)
    (hr : ∀ c ∈ r.head?, isWordPart c = true ∨ c = ' ') :
    Scans s (w.toList ++ r) s r [.symbol w] := by
  have hlong : ∀ long ∈ longSymbols ++ pairSymbols, ∀ c ∈ r.head?,
      (w.toList ++ [c]).isPrefixOf long.toList = false := by
    have hcharacters : ∀ long ∈ longSymbols ++ pairSymbols,
        long.toList.all (fun d => !isWordPart d && d ≠ ' ') = true := by decide
    intro long hlong c hc
    refine Bool.eq_false_iff.mpr fun h => ?_
    have hmem : c ∈ long.toList := (List.isPrefixOf_iff_prefix.mp h).subset (by simp)
    obtain ⟨hpart, hblank⟩ : isWordPart c = false ∧ c ≠ ' ' := by
      simpa using List.all_eq_true.mp (hcharacters long hlong) c hmem
    rcases hr c hc with hword | hword
    · rw [hpart] at hword
      cases hword
    · exact hblank hword
  have hsymbol := symbol_append hw hlong
  obtain ⟨c, hc, hsign⟩ := (Option.any_eq_true _ _).mp hsign
  obtain ⟨cs, hcs⟩ := List.head?_eq_some_iff.mp hc
  simp only [isSign, Bool.and_eq_true, Bool.not_eq_true', Bool.or_eq_false_iff,
    List.contains_eq_mem, decide_eq_false_iff_not, List.mem_append, not_or] at hsign
  obtain ⟨hprintable, ⟨⟨hpart, hquote⟩, hspecial⟩, hopening, hclosing⟩ := hsign
  have hstart : isWordStart c = false :=
    Bool.eq_false_iff.mpr fun h => by simp [isWordPart_of_isWordStart h] at hpart
  have hdigit : c.isDigit = false :=
    Bool.eq_false_iff.mpr fun h => by simp [isWordPart_of_isDigit h] at hpart
  have htrack : s.track? c = some s := (if_neg hopening).trans (if_neg hclosing)
  refine token hcs hspecial ?_
  have hstarts : quoteStart? (c :: (cs ++ r)) = none :=
    quoteStart?_of_endsWord (by simp [EndsWord, hpart, hquote])
  rw [hcs, List.cons_append] at hsymbol hpoint ⊢
  rw [List.tail_cons] at hpoint
  rw [token_symbol hstart hdigit (fun h => hpoint (congrArg some h)) hprintable hstarts hsymbol,
    htrack]

/-- A bracket is opened where fewer than 200 are open. -/
theorem opening (hc : c ∈ Scanner.opening) (hfew : s.brackets.length < 200) :
    Scans s (c :: r) (s.opened c) r [.symbol (String.ofList [c])] := by
  have hspecial : ∀ c ∈ Scanner.opening, c ∉ special := List.all_iff_forall_prop.mp (by decide)
  have hone : [c] = c :: [] := rfl
  refine token hone (hspecial c hc) ?_
  rw [List.singleton_append, token_bracket (List.mem_append_left _ hc), track?_open hc,
    if_neg (by omega)]

theorem closing {d : Char} (h : closes c d = true) :
    Scans (s.opened c) (d :: r) s r [.symbol (String.ofList [d])] := by
  have hclosing : d ∈ Scanner.closing := by
    have hpair : (c, d) ∈ [('(', ')'), ('[', ']'), ('\x7b', '\x7d')] := of_decide_eq_true h
    have hsecond : ∀ p ∈ [('(', ')'), ('[', ']'), ('\x7b', '\x7d')], p.2 ∈ Scanner.closing := by
      decide
    exact hsecond _ hpair
  have hspecial : ∀ d ∈ Scanner.closing, d ∉ special := List.all_iff_forall_prop.mp (by decide)
  have hone : [d] = d :: [] := rfl
  refine token hone (hspecial d hclosing) ?_
  rw [List.singleton_append, token_bracket (List.mem_append_right _ hclosing), track?_close h]

end Scans

/-- The scanner at the start of a text. -/
def start : Scanner := ⟨1, [], []⟩

theorem run_start {fuel : Nat} (hc : c ∉ special) :
    run (fuel + 1) true start (c :: cs) = run fuel false start (c :: cs) := by
  simp only [special, List.mem_cons, List.not_mem_nil, or_false, not_or] at hc
  have hmargin : margin? ⟨0, 0, 0, 0⟩ (c :: cs) = some (⟨0, 0, 0, 0⟩, c :: cs) := by
    rw [margin?] <;> simp_all
  rw [run, hmargin]
  simp only [start]
  split
  · simp_all
  · simp_all
  · simp [indentTokens?]

/-- The tokens of a text are those of its parts. -/
theorem Scans.tokens_scan (h : Scans start (c :: cs) s' r ts) (hc : c ∉ special)
    (hrest : ∀ fuel, (Scanner.run (fuel + 1) false s' r).lexemes.map Lexeme.token = ts') :
    (scan (c :: cs)).lexemes.map Lexeme.token = ts ++ ts' := by
  obtain ⟨fuel, hfuel, hrun⟩ := h.run (2 * (c :: cs).length + 1) (by omega)
  obtain ⟨fuel, rfl⟩ := Nat.exists_eq_add_of_lt hfuel
  have hstart : Scanner.run (2 * (c :: cs).length + 2) true start (c :: cs) =
      Scanner.run (2 * (c :: cs).length + 1) false start (c :: cs) := run_start hc
  rw [hrest] at hrun
  rw [scan]
  simp only [List.map_map]
  exact (congrArg (fun scanned => scanned.lexemes.map Lexeme.token) hstart).trans hrun

theorem Scans.tokens_whole (h : Scans start (c :: cs) start [] ts) (hc : c ∉ special) :
    (scan (c :: cs)).lexemes.map Lexeme.token = ts ++ [.finish] :=
  h.tokens_scan hc fun _ => rfl

end Scanner

theorem unifyLineEnds_eq_self {cs : List Char} (h : '\r' ∉ cs) : Text.unifyLineEnds cs = cs := by
  induction cs with
  | nil => rfl
  | cons c cs ih =>
    obtain ⟨hc, hcs⟩ := not_or.mp (mt List.mem_cons.mpr h)
    rw [Text.unifyLineEnds_cons (Ne.symm hc), ih hcs]

end ViewModel.Source
