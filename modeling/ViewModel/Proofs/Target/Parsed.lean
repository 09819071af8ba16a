import ViewModel.Proofs.Source.Literals
import ViewModel.Proofs.Source.Operators
import ViewModel.Proofs.Target.Restated
import ViewModel.Proofs.Target.Spelling

/-!
What is printed for Python, read as an expression of a class source. The scanner takes each word of
the row for its tokens, and the reader of expressions puts the tokens together as the grammar does
the words; so it finds the term that the words say.
-/

namespace ViewModel

open Source (Token Term Constant Lexeme Scanner CompareOp isWordPart isReserved)
open Source.Expression (Says Compares)
open Source.Scanner (Scans EndsWord isQuoteMark)

namespace Lexicon.Ends

variable {r : List Char}

theorem endsWord (h : Lexicon.Ends r) : EndsWord r := by
  cases r with
  | nil => rfl
  | cons c r => rcases h c rfl with rfl | rfl <;> simp [EndsWord] <;> decide

theorem endsNumeral (h : Lexicon.Ends r) : Source.EndsNumeral r := by
  intro c hc
  rcases h c hc with rfl | rfl <;> decide

theorem not_quote (h : Lexicon.Ends r) : ∀ c ∈ r.head?, isQuoteMark c = false := by
  intro c hc
  rcases h c hc with rfl | rfl <;> decide

end Lexicon.Ends

/-! Constants in class sources. -/

namespace Source

/-- A number, or a minus and the opposite number. -/
def signedTokens (negative : Bool) (number opposite : Constant) : List Token :=
  if negative then [.symbol "-", .number opposite] else [.number number]

/-- How a constant stands in a text, in its tokens and as a term. A whole numeral has as many digits
as are read. -/
inductive Written : List Char → List Token → Term → Prop
  | keyword {w : String} {c : Constant} (hw : (w, c) ∈ Expression.keywords) :
      Written w.toList [.word w] (.constant c)
  | number {n : Numeral} (h : n.WellFormed)
      (hdigits : n.fraction = [] → n.exponent = none → n.whole.length ≤ 4300) :
      Written n.text [.number (n.denoted false).constant] (.constant (n.denoted false).constant)
  | negative {n : Numeral} (h : n.WellFormed)
      (hdigits : n.fraction = [] → n.exponent = none → n.whole.length ≤ 4300) :
      Written ('-' :: n.text) [.symbol "-", .number (n.denoted false).constant]
        (.unary .minus (.constant (n.denoted false).constant))
  | text (cs : List Char) :
      Written (Text.Quoted.encode cs)
        [.quote ⟨false, false, false, cs.flatMap (Text.Quoted.escape (Text.Quoted.mark cs))⟩]
        (.constant (.text (String.ofList cs)))

namespace Written

variable {s : Scanner} {cs r : List Char} {ts : List Token} {t : Term} {k : Nat}
  {ls : List Lexeme} {n : Numeral}

theorem signed (h : n.WellFormed)
    (hdigits : n.fraction = [] → n.exponent = none → n.whole.length ≤ 4300) {negative : Bool}
    {number opposite : Constant}
    (hc : (n.denoted false).constant = if negative then opposite else number) :
    Written (Numeral.signText negative ++ n.text) (signedTokens negative number opposite)
      (.signed negative number opposite) := by
  cases negative with
  | false =>
    obtain rfl : _ = number := hc
    exact .number h hdigits
  | true =>
    obtain rfl : _ = opposite := hc
    exact .negative h hdigits

theorem keyword_isIdentifier {w : String} {c : Constant} (hw : (w, c) ∈ Expression.keywords) :
    Scanner.isIdentifier w.toList = true := by
  have htable : ∀ e ∈ Expression.keywords, Scanner.isIdentifier e.1.toList = true := by decide
  exact htable _ hw

/-- The text of a constant is scanned as its tokens before a blank or a parenthesis. -/
theorem scans (h : Written cs ts t) (hr : Lexicon.Ends r) : Scans s (cs ++ r) s r ts := by
  have hword : EndsWord r := hr.endsWord
  have hnumeral : EndsNumeral r := hr.endsNumeral
  cases h with
  | keyword hw => exact .word (keyword_isIdentifier hw) hword
  | number h hdigits => exact .numeral h hdigits hnumeral
  | negative h hdigits =>
    obtain ⟨d, ds, hcons⟩ := h.exists_cons
    have hd := h.wholeDigits d (by simp [hcons])
    refine Scans.trans (.symbol (w := "-") (.inl rfl) (by decide) (by simp) fun c hc => .inl ?_)
      (.numeral h hdigits hnumeral)
    obtain rfl : d = c := by simpa [Numeral.text, hcons] using hc
    exact isWordPart_of_isDigit hd
  | text cs => exact .quoted cs hr.not_quote

/-- What a constant is written with starts with no blank, no comment and no line end. -/
theorem starts (h : Written cs ts t) : ∃ c rest, cs = c :: rest ∧ c ∉ Scanner.special := by
  cases h with
  | keyword hw =>
    obtain ⟨c, rest, hcs, -, hparts⟩ := Scanner.word_of_isIdentifier (keyword_isIdentifier hw)
    exact ⟨c, rest, hcs, Scanner.not_special_of_isWordPart (hparts c (by simp [hcs]))⟩
  | number h =>
    obtain ⟨d, ds, hcons⟩ := h.exists_cons
    have hd := isWordPart_of_isDigit (h.wholeDigits d (by simp [hcons]))
    exact ⟨d, _, by rw [Numeral.text, hcons, List.cons_append],
      Scanner.not_special_of_isWordPart hd⟩
  | negative => exact ⟨'-', _, rfl, by decide⟩
  | text cs =>
    refine ⟨_, _, by rw [Text.Quoted.encode, List.cons_append], ?_⟩
    rcases isMark_mark cs with hmark | hmark <;> rw [hmark] <;> decide

theorem not_return (h : Written cs ts t) : '\r' ∉ cs := by
  have hnumber {n : Numeral} (h : n.WellFormed) : '\r' ∉ n.text := fun hmem =>
    (h.mem_text hmem).elim (by decide) (by decide)
  cases h with
  | keyword hw =>
    obtain ⟨-, -, -, -, hparts⟩ := Scanner.word_of_isIdentifier (keyword_isIdentifier hw)
    exact fun hmem => absurd (hparts _ hmem) (by decide)
  | number h => exact hnumber h
  | negative h => simpa using hnumber h
  | text cs => exact fun hmem => absurd (isPrintable_of_mem_encode cs _ hmem) (by decide)

theorem expression (h : Written cs ts t) (hk : Expression.operandLevel ≤ k)
    (hls : ls.map Lexeme.token = ts) : Says k ls t := by
  cases h with
  | keyword hw =>
    obtain ⟨l, rfl, hl⟩ := List.map_eq_singleton_iff.mp hls
    exact .keyword hk hw hl
  | number =>
    obtain ⟨l, rfl, hl⟩ := List.map_eq_singleton_iff.mp hls
    exact .number hk hl
  | negative =>
    obtain ⟨l, ls, rfl, hl, hls⟩ := List.map_eq_cons_iff.mp hls
    obtain ⟨l', rfl, hl'⟩ := List.map_eq_singleton_iff.mp hls
    exact .negative hk hl hl'
  | text cs =>
    obtain ⟨l, rfl, hl⟩ := List.map_eq_singleton_iff.mp hls
    exact .text hk hl (Literal.unescape?_flatMap (isMark_mark cs) cs)

end Written

end Source

/-- The tokens of a printed constant. -/
def Scalar.tokens : Scalar → List Token
  | null => [.word "None"]
  | bool b => [.word (if b then "True" else "False")]
  | int n => Source.signedTokens (n < 0) (.int n) (.int (-n))
  | float x => Source.signedTokens x.isNegative (.float x) (.float x.neg)
  | text s => [.quote ⟨false, false, false,
      s.toList.flatMap (Text.Quoted.escape (Text.Quoted.mark s.toList))⟩]

theorem Scalar.written_int {n : Int} (hdigits : (Nat.toDigits 10 n.natAbs).length ≤ 4300) :
    Source.Written (intText n).toList (int n).tokens (int n).term := by
  rw [Numeral.text_intText]
  refine .signed (Numeral.wellFormed_ofNat _) (fun _ _ => hdigits) ?_
  rw [Numeral.denoted_ofNat]
  show Constant.int (n.natAbs : Int) = _
  split
  next h =>
    have hnegative := of_decide_eq_true h
    rw [Int.ofNat_natAbs_of_nonpos (by omega)]
  next h =>
    have hpositive : ¬n < 0 := by simpa using h
    rw [Int.natAbs_of_nonneg (by omega)]

theorem Scalar.written_float {x : Double} (hfinite : x.isFinite = true) :
    Source.Written x.text.toList (float x).tokens (float x).term := by
  cases x with
  | nan | infinite => cases hfinite
  | finite negative m e h =>
    obtain ⟨n, hwell, htext, hdenoted⟩ := Numeral.text_finite negative h
    rw [htext]
    refine .signed hwell (fun hfraction hexponent => ?_) ?_
    · -- such a numeral would denote a whole number
      have hint := hdenoted false
      rw [Numeral.denoted, if_pos (by simp [hfraction, hexponent])] at hint
      cases hint
    · rw [hdenoted]
      cases negative <;> rfl

/-- A constant is printed as a text, tokens and a term that belong together. -/
theorem Scalar.written {s : Scalar} (hfinite : s.isFinite = true)
    (hdigits : ∀ n, s = .int n → (Nat.toDigits 10 n.natAbs).length ≤ 4300) :
    Source.Written (Dialect.python.literal s).toList s.tokens s.term := by
  cases s with
  | null => exact .keyword (by decide)
  | bool b =>
    cases b
    · exact .keyword (w := "False") (by decide)
    · exact .keyword (w := "True") (by decide)
  | int n => exact written_int (hdigits n rfl)
  | float x => exact written_float hfinite
  | text s =>
    have htext : (Dialect.python.literal (.text s)).toList = Text.Quoted.encode s.toList :=
      String.toList_ofList
    have hterm : Scalar.term (.text s) = .constant (.text (String.ofList s.toList)) := by
      rw [String.ofList_toList]
      rfl
    rw [htext, hterm]
    exact .text s.toList

/-! Rows of words. -/

namespace Piece

/-- The tokens of an operator between operands. -/
def jointTokens (op : String) : List Token :=
  if op = "is not" then [.word "is", .word "not"]
  else if op ∈ Source.Expression.comparisonSymbols then [.symbol op]
  else [.word op]

def tokens : Piece → List Token
  | literal s => s.tokens
  | self => [.word "self"]
  | access _ name => [.symbol ".", .word name]
  | opening => [.symbol "("]
  | closing => [.symbol ")"]
  | between op => jointTokens op
  | before _ => [.word "not"]

/-- A whole number has no more digits than are read, and a name that is read is one in the normal
form of names. -/
def isLegible : Piece → Bool
  | literal (.int n) => (Nat.toDigits 10 n.natAbs).length ≤ 4300
  | access safe name => !safe && Scanner.isIdentifier name.toList && !isReserved name &&
      Text.normalize name = name
  | _ => true

theorem isLegible_access {safe : Bool} {name : String} :
    (access safe name).isLegible = true ↔ safe = false ∧ Scanner.isIdentifier name.toList = true ∧
      isReserved name = false ∧ Text.normalize name = name := by
  simp [isLegible, and_assoc]

theorem written {s : Scalar} (hfinite : s.isFinite = true)
    (hlegible : (literal s).isLegible = true) :
    Source.Written (Dialect.python.literal s).toList s.tokens s.term :=
  Scalar.written hfinite fun n hn => by
    subst hn
    simpa [isLegible] using hlegible

/-- How many parentheses are open after a word; no more than 200 may be. -/
def nest? : Nat → Piece → Option Nat
  | k, opening => if k < 200 then some (k + 1) else none
  | 0, closing => none
  | k + 1, closing => some k
  | k, _ => some k

end Piece

/-- What lets the text of a row be read as an expression of a class source. -/
structure Legible (ps : List Piece) : Prop where
  words : ∀ p ∈ ps, p.isLegible = true
  parentheses : ps.foldlM Piece.nest? 0 = some 0

/-- The scanner inside so many parentheses. -/
def Source.Scanner.inside : Nat → Scanner
  | 0 => .start
  | k + 1 => (inside k).opened '('

theorem Source.Scanner.length_inside (k : Nat) : (inside k).brackets.length = k := by
  induction k with
  | zero => rfl
  | succ k ih => rw [inside, length_opened, ih]

namespace Piece

open Lexicon (chars)
open Source.Scanner (inside)

variable {s : Scanner} {p : Piece} {ps : List Piece} {k k' : Nat} {r : List Char}

/-- The words of operators, by the tokens that they are. -/
theorem jointTokens_cases : ∀ op ∈ pythonGrammar.joints,
    Scanner.isIdentifier op.toList = true ∧ jointTokens op = [.word op] ∨ op = "is not" ∨
      op ∈ Source.Expression.comparisonSymbols ∧ jointTokens op = [.symbol op] := by
  decide

theorem scans_joint {op : String} (hop : op ∈ pythonGrammar.joints) (r : List Char) :
    Scans s (op.toList ++ ' ' :: r) s (' ' :: r) (jointTokens op) := by
  have hblank {r : List Char} : EndsWord (' ' :: r) := by simp [EndsWord]; decide
  rcases jointTokens_cases op hop with ⟨hop, htokens⟩ | rfl | ⟨hop, htokens⟩
  · rw [htokens]
    exact .word hop hblank
  · exact Scans.trans (.word (w := "is") (by decide) hblank)
      ((Scans.blank s _).trans (.word (w := "not") (by decide) hblank))
  · have htable : ∀ w ∈ Source.Expression.comparisonSymbols,
        (w.length = 1 ∨ w ∈ Source.Scanner.pairSymbols) ∧
          w.toList.head?.any Source.Scanner.isSign = true ∧ w.toList.head? ≠ some '.' := by decide
    obtain ⟨hw, hsign, hpoint⟩ := htable op hop
    rw [htokens]
    exact .symbol hw hsign (fun h => absurd h hpoint) (by simp)

/-- Each word is scanned where it is followed by one that may come after it. -/
theorem scans_text (hp : pythonGrammar.Knows p)
    (hfinite : ∀ s, p = .literal s → s.isFinite = true) (hlegible : p.isLegible = true)
    (hfollows : ∀ q ∈ ps.head?, pythonGrammar.Follows p q) (hnest : nest? k p = some k') :
    Scans (inside k) ((p.text .python).toList ++ chars .python ps) (inside k')
      (chars .python ps) p.tokens := by
  cases p with
  | opening =>
    rw [nest?] at hnest
    split at hnest
    next hfew =>
      obtain rfl := Option.some.inj hnest
      exact .opening (c := '(') (by decide) (by rwa [Source.Scanner.length_inside])
    next => cases hnest
  | closing =>
    cases k with
    | zero => cases hnest
    | succ k =>
      obtain rfl : k = k' := Option.some.inj hnest
      exact .closing (c := '(') (by decide)
  | literal s =>
    obtain rfl : k = k' := Option.some.inj hnest
    have hends : Lexicon.Ends (chars .python ps) := Lexicon.chars_ends hfollows
    exact (written (hfinite s rfl) hlegible).scans hends
  | self =>
    obtain rfl : k = k' := Option.some.inj hnest
    exact .word (w := "self") (by decide) (Lexicon.chars_end_word hfollows)
  | access safe name =>
    obtain rfl : k = k' := Option.some.inj hnest
    obtain ⟨rfl, hname, -, -⟩ := isLegible_access.mp hlegible
    obtain ⟨c, cs, hcs, hstart, -⟩ := Source.Scanner.word_of_isIdentifier hname
    have hdigit : c.isDigit = false := Bool.eq_false_iff.mpr fun h => by
      rw [Source.isWordStart_of_isDigit h] at hstart
      cases hstart
    have htext : ((access false name).text .python).toList = ".".toList ++ name.toList :=
      String.toList_append
    rw [htext, List.append_assoc]
    refine Scans.trans (.symbol (.inl rfl) (by decide) (fun _ => ?_) fun e he => .inl ?_)
      (.word hname (Lexicon.chars_end_word hfollows))
    · simpa [hcs] using hdigit
    · obtain rfl : c = e := by simpa [hcs] using he
      exact Source.isWordPart_of_isWordStart hstart
  | between op =>
    obtain rfl : k = k' := Option.some.inj hnest
    have htext : ((between op).text .python).toList ++ chars .python ps =
        ' ' :: (op.toList ++ ' ' :: chars .python ps) := by simp [Piece.text]
    have hscans := (Scans.blank (inside k) _).trans
      ((scans_joint hp (chars .python ps)).trans (.blank _ _))
    rw [List.nil_append, List.append_nil] at hscans
    exact htext ▸ hscans
  | before word =>
    obtain rfl : k = k' := Option.some.inj hnest
    obtain rfl : word = pythonGrammar.negation := hp
    have hblank : EndsWord (' ' :: chars .python ps) := by simp [EndsWord]; decide
    exact Scans.trans (.word (w := "not") (by decide) hblank) (.blank _ _)

/-- A row whose words may come after each other is scanned to its end. -/
theorem scans_chars (hchain : ps.IsChain pythonGrammar.Follows)
    (hknows : ∀ p ∈ ps, pythonGrammar.Knows p)
    (hfinite : ∀ s, .literal s ∈ ps → s.isFinite = true)
    (hlegible : ∀ p ∈ ps, p.isLegible = true) (hnest : ps.foldlM nest? k = some 0) :
    Scans (inside k) (chars .python ps) .start [] (ps.flatMap tokens) := by
  induction ps generalizing k with
  | nil =>
    obtain rfl : k = 0 := Option.some.inj hnest
    exact .refl _ _
  | cons p ps ih =>
    obtain ⟨hfollows, hchain⟩ := List.isChain_cons.mp hchain
    obtain ⟨hp, hknows⟩ := List.forall_mem_cons.mp hknows
    obtain ⟨hl, hlegible⟩ := List.forall_mem_cons.mp hlegible
    rw [List.foldlM_cons] at hnest
    obtain ⟨k', hk', hnest⟩ := Option.bind_eq_some_iff.mp hnest
    have hfirst : ∀ s, p = .literal s → s.isFinite = true := fun s h =>
      hfinite s (h ▸ List.mem_cons_self)
    have hrest := ih hchain hknows (fun s h => hfinite s (List.mem_cons_of_mem _ h)) hlegible hnest
    rw [Lexicon.chars_cons, List.flatMap_cons]
    exact (scans_text hp hfirst hl hfollows hk').trans hrest

theorem not_return_text (hp : pythonGrammar.Knows p)
    (hfinite : ∀ s, p = .literal s → s.isFinite = true) (hlegible : p.isLegible = true) :
    '\r' ∉ (p.text .python).toList := by
  cases p with
  | opening | closing | self => decide
  | literal s => exact (written (hfinite s rfl) hlegible).not_return
  | access safe name =>
    obtain ⟨rfl, hname, -, -⟩ := isLegible_access.mp hlegible
    obtain ⟨-, -, -, -, hparts⟩ := Source.Scanner.word_of_isIdentifier hname
    have hno : '\r' ∉ name.toList := fun h => absurd (hparts _ h) (by decide)
    simpa [Piece.text] using hno
  | between op =>
    have htable : ∀ op ∈ pythonGrammar.joints, '\r' ∉ op.toList := by decide
    simpa [Piece.text] using htable op hp
  | before word =>
    obtain rfl : word = pythonGrammar.negation := hp
    decide

theorem not_return_chars (hknows : ∀ p ∈ ps, pythonGrammar.Knows p)
    (hfinite : ∀ s, .literal s ∈ ps → s.isFinite = true)
    (hlegible : ∀ p ∈ ps, p.isLegible = true) : '\r' ∉ chars .python ps := by
  induction ps with
  | nil => simp [chars, Piece.textOf]
  | cons p ps ih =>
    obtain ⟨hp, hknows⟩ := List.forall_mem_cons.mp hknows
    obtain ⟨hl, hlegible⟩ := List.forall_mem_cons.mp hlegible
    rw [Lexicon.chars_cons, List.mem_append, not_or]
    exact ⟨not_return_text hp (fun s h => hfinite s (h ▸ List.mem_cons_self)) hl,
      ih hknows (fun s h => hfinite s (List.mem_cons_of_mem _ h)) hlegible⟩

end Piece

namespace Grammar.Reads

variable {n : Nat} {ps : List Piece} {s : Phrase} {t : Term} {ls : List Lexeme}

/-- The text of a row that can be read starts with no blank, no comment and no line end. -/
theorem chars_start (h : Reads pythonGrammar n ps s) (hlegible : ∀ p ∈ ps, p.isLegible = true) :
    ∃ c cs, Lexicon.chars .python ps = c :: cs ∧ c ∉ Source.Scanner.special := by
  have more {ps qs : List Piece} {c : Char} {cs : List Char}
      (h : Lexicon.chars .python ps = c :: cs) :
      ∃ cs, Lexicon.chars .python (ps ++ qs) = c :: cs :=
    ⟨cs ++ Lexicon.chars .python qs, by rw [Lexicon.chars_append, h, List.cons_append]⟩
  induction h with
  | @literal s hs =>
    have hlegible := hlegible _ (List.mem_singleton_self _)
    obtain ⟨c, cs, hcs, hc⟩ := (Piece.written hs hlegible).starts
    exact ⟨c, cs, by simpa [Lexicon.chars, Piece.textOf, Piece.text] using hcs, hc⟩
  | path accesses => exact ⟨'s', _, by rw [Lexicon.chars_cons]; rfl, by decide⟩
  | enclosed => exact ⟨'(', _, by rw [Lexicon.chars_cons]; rfl, by decide⟩
  | negated => exact ⟨'n', _, by rw [Lexicon.chars_cons]; rfl, by decide⟩
  | joined _ _ _ _ _ ih =>
    obtain ⟨c, cs, hcs, hc⟩ := ih fun p hp => hlegible p (List.mem_append_left _ hp)
    obtain ⟨cs, hcs⟩ := more hcs
    exact ⟨c, cs, hcs, hc⟩
  | conditional _ _ _ _ _ ih =>
    obtain ⟨c, cs, hcs, hc⟩ := ih fun p hp => hlegible p (List.mem_append_left _ hp)
    obtain ⟨cs, hcs⟩ := more hcs
    exact ⟨c, cs, hcs, hc⟩

/-- The accesses of a path that can be read are plain ones by names that are read as they are. -/
theorem exists_names {accesses : List (Bool × String)}
    (h : ∀ a ∈ accesses, (Piece.access a.1 a.2).isLegible = true) :
    ∃ names : List String, accesses = names.map (fun name => (false, name)) ∧
      (∀ name ∈ names, isReserved name = false) ∧ names.map Text.normalize = names := by
  have hall (a : Bool × String) (ha : a ∈ accesses) := Piece.isLegible_access.mp (h a ha)
  refine ⟨accesses.map Prod.snd, ?_, List.forall_mem_map.mpr fun a ha => (hall a ha).2.2.1, ?_⟩
  · have hplain : ∀ a ∈ accesses, ((fun name => (false, name)) ∘ Prod.snd) a = id a :=
      fun a ha => Prod.ext (hall a ha).1.symm rfl
    rw [List.map_map, List.map_congr_left hplain, List.map_id]
  · have hnormal : ∀ a ∈ accesses, (Text.normalize ∘ Prod.snd) a = a.2 :=
      fun a ha => (hall a ha).2.2.2
    rw [List.map_map, List.map_congr_left hnormal]

/-- The comparison that an operator is, in tokens and as a term. -/
theorem compares {op : String} {cop : CompareOp} (hop : pythonGrammar.level op = some 5)
    (hcop : CompareOp.ofWord? op = some cop) (hls : ls.map Lexeme.token = Piece.jointTokens op) :
    Compares ls cop := by
  have htable : ∀ e ∈ pythonGrammar.operators, e.2 = 5 →
      CompareOp.ofWord? e.1 = Source.Expression.isComparison e.1 ∧
        Piece.jointTokens e.1 = [.symbol e.1] ∨ e.1 = "is" ∨ e.1 = "is not" := by decide
  rcases htable _ (pythonGrammar.mem_operators hop) rfl with ⟨hword, htokens⟩ | hword | hword
  · rw [htokens] at hls
    obtain ⟨l, rfl, hl⟩ := List.map_eq_singleton_iff.mp hls
    exact .symbol hl (hword ▸ hcop)
  · obtain rfl : op = "is" := hword
    obtain rfl := Option.some.inj hcop
    obtain ⟨l, rfl, hl⟩ := List.map_eq_singleton_iff.mp hls
    exact .is hl
  · obtain rfl : op = "is not" := hword
    obtain rfl := Option.some.inj hcop
    obtain ⟨l, rest, rfl, hl, hrest⟩ := List.map_eq_cons_iff.mp hls
    obtain ⟨l', rfl, hl'⟩ := List.map_eq_singleton_iff.mp hrest
    exact .isNot hl hl'

section Joined

variable {op : String} {k n' : Nat} {s' : Phrase} {v : Term} {ls' ls'' : List Lexeme}

theorem comparison_expression (hop : pythonGrammar.level op = some 5) (hn : 5 ≤ n) (hn' : 5 < n')
    (left : ∀ t, s.term? = some t → Says n ls t)
    (hls' : ls'.map Lexeme.token = Piece.jointTokens op)
    (right : ∀ t, s'.term? = some t → Says n' ls'' t)
    (ht : (pythonGrammar.join op 5 n s s').term? = some v) : Says 5 (ls ++ (ls' ++ ls'')) v := by
  rcases Nat.eq_or_lt_of_le hn with rfl | hlt
  · have hjoin : pythonGrammar.join op 5 5 s s' = .chained op s s' := rfl
    simp only [hjoin, Phrase.term?, Option.bind_eq_bind, Option.bind_eq_some_iff] at ht
    obtain ⟨x, hx, y, hy, hv⟩ := ht
    unfold Phrase.chainedTerm? at hv
    split at hv
    · obtain ⟨cop, hcop, rfl⟩ := Option.map_eq_some_iff.mp hv
      exact (left _ hx).linked (compares hop hcop hls') (right y hy) hn'
    · cases hv
  · have hjoin : pythonGrammar.join op 5 n s s' = .joined op s s' := by
      rw [Grammar.join, beq_eq_false_iff_ne.mpr hlt.ne', Bool.and_false]
      rfl
    have htable : ∀ e ∈ pythonGrammar.operators, e.2 = 5 → e.1 ≠ "and" ∧ e.1 ≠ "or" := by decide
    obtain ⟨hand, hor⟩ := htable _ (pythonGrammar.mem_operators hop) rfl
    simp only [hjoin, Phrase.term?, Option.bind_eq_bind, Option.bind_eq_some_iff] at ht
    obtain ⟨x, hx, y, hy, hv⟩ := ht
    unfold Phrase.joinedTerm? at hv
    split at hv
    · exact absurd rfl hand
    · exact absurd rfl hor
    · obtain ⟨cop, hcop, rfl⟩ := Option.map_eq_some_iff.mp hv
      exact (left x hx).compared hlt (compares hop hcop hls') (right y hy) hn'

theorem joined_expression (hop : pythonGrammar.level op = some k) (hn : k ≤ n) (hn' : k < n')
    (left : ∀ t, s.term? = some t → Says n ls t)
    (hls' : ls'.map Lexeme.token = Piece.jointTokens op)
    (right : ∀ t, s'.term? = some t → Says n' ls'' t)
    (ht : (pythonGrammar.join op k n s s').term? = some v) : Says k (ls ++ (ls' ++ ls'')) v := by
  have htable : ∀ e ∈ pythonGrammar.operators, e.2 = 5 ∨ ∃ conjunction,
      e.1 = Source.Expression.joinWord conjunction ∧
        e.2 = Source.Expression.joinLevel conjunction := by decide
  rcases htable _ (pythonGrammar.mem_operators hop) with hk | ⟨conjunction, hword, hk⟩
  · obtain rfl : k = 5 := hk
    exact comparison_expression hop hn hn' left hls' right ht
  · obtain rfl : op = Source.Expression.joinWord conjunction := hword
    obtain rfl : k = Source.Expression.joinLevel conjunction := hk
    have hjoin : pythonGrammar.join (Source.Expression.joinWord conjunction)
        (Source.Expression.joinLevel conjunction) n s s' =
          .joined (Source.Expression.joinWord conjunction) s s' := by
      cases conjunction <;> rfl
    have htokens : Piece.jointTokens (Source.Expression.joinWord conjunction) =
        [.word (Source.Expression.joinWord conjunction)] := by
      cases conjunction <;> rfl
    have hterm (x y : Term) : Phrase.joinedTerm? (Source.Expression.joinWord conjunction) x y =
        some (.logical conjunction x y) := by
      cases conjunction <;> rfl
    rw [hjoin] at ht
    rw [htokens] at hls'
    simp only [Phrase.term?, Option.bind_eq_bind, Option.bind_eq_some_iff, hterm,
      Option.some.injEq] at ht
    obtain ⟨x, hx, y, hy, rfl⟩ := ht
    obtain ⟨l, rfl, hl⟩ := List.map_eq_singleton_iff.mp hls'
    exact .logical hl (left x hx) hn (right y hy) hn'

end Joined

/-- The tokens of a row are an expression that has the level and the meaning of the row. -/
theorem expression (h : Reads pythonGrammar n ps s) (hlegible : ∀ p ∈ ps, p.isLegible = true)
    (ht : s.term? = some t) (hls : ls.map Lexeme.token = ps.flatMap Piece.tokens) :
    Says n ls t := by
  induction h generalizing t ls with
  | @literal s hs =>
    obtain rfl := Option.some.inj ht
    have hlegible := hlegible _ (List.mem_singleton_self _)
    exact (Piece.written hs hlegible).expression (by decide) (by simpa [Piece.tokens] using hls)
  | path accesses =>
    obtain ⟨-, haccesses⟩ := List.forall_mem_cons.mp hlegible
    obtain ⟨names, rfl, hreserved, hnormal⟩ := exists_names (List.forall_mem_map.mp haccesses)
    rw [Phrase.term?, attributes?_plain] at ht
    obtain rfl := Option.some.inj ht
    rw [List.flatMap_cons] at hls
    obtain ⟨l, ls, rfl, hl, hls⟩ := List.map_eq_cons_iff.mp hls
    have hdotted : ls.map Lexeme.token = Source.Expression.dotted names := by
      rw [hls, List.map_map, List.flatMap_map]
      rfl
    have hpath := Says.path (n := Dialect.closest) (by decide) hl (by decide) hreserved hdotted
    have hself : Text.normalize "self" = "self" := by decide
    rwa [hnormal, hself] at hpath
  | @enclosed n ps s h ih =>
    rw [List.forall_mem_cons, List.forall_mem_append] at hlegible
    rw [List.flatMap_cons, List.flatMap_append, Piece.tokens, List.singleton_append] at hls
    obtain ⟨l, more, rfl, hl, hmore⟩ := List.map_eq_cons_iff.mp hls
    obtain ⟨ls, last, rfl, hinner, hlast⟩ := List.map_eq_append_iff.mp hmore
    obtain ⟨l', rfl, hl'⟩ := List.map_eq_singleton_iff.mp hlast
    exact .enclosed (by decide) hl (ih hlegible.2.1 ht hinner) h.level_bounds.1 hl'
  | @negated n ps s hn h ih =>
    obtain ⟨-, hlegible⟩ := List.forall_mem_cons.mp hlegible
    rw [Phrase.term?] at ht
    obtain ⟨operand, hoperand, rfl⟩ := Option.map_eq_some_iff.mp ht
    rw [List.flatMap_cons] at hls
    obtain ⟨l, ls, rfl, hl, hls⟩ := List.map_eq_cons_iff.mp hls
    exact .negated hl (ih hlegible hoperand hls) hn
  | @joined op k n n' ps qs s s' hop hn left hn' right ihl ihr =>
    rw [List.forall_mem_append, List.forall_mem_cons] at hlegible
    rw [List.flatMap_append, List.flatMap_cons] at hls
    obtain ⟨ls, rest, rfl, hps, hrest⟩ := List.map_eq_append_iff.mp hls
    obtain ⟨ls', ls'', rfl, hjoint, hqs⟩ := List.map_eq_append_iff.mp hrest
    exact joined_expression hop hn hn' (fun _ h => ihl hlegible.1 h hps) hjoint
      (fun _ h => ihr hlegible.2.2 h hqs) ht
  | @conditional n n' n'' ps qs rs s s' s'' hn first hn' second third ih ih' ih'' =>
    simp only [List.forall_mem_append, List.forall_mem_cons] at hlegible
    obtain ⟨hfirst, -, hsecond, -, hthird⟩ := hlegible
    simp only [Phrase.term?, Option.bind_eq_bind, Option.bind_eq_some_iff, Option.pure_def,
      Option.some.injEq] at ht
    obtain ⟨test, htest, value, hvalue, other, hother, rfl⟩ := ht
    have hopener : (Piece.between pythonGrammar.opener).tokens = [.word "if"] := rfl
    have hmiddle : (Piece.between pythonGrammar.middle).tokens = [.word "else"] := rfl
    simp only [List.flatMap_append, List.flatMap_cons, hopener, hmiddle,
      List.singleton_append] at hls
    obtain ⟨ls, rest, rfl, hps, hrest⟩ := List.map_eq_append_iff.mp hls
    obtain ⟨l, rest, rfl, hl, hrest⟩ := List.map_eq_cons_iff.mp hrest
    obtain ⟨ls', rest', rfl, hqs, hrest'⟩ := List.map_eq_append_iff.mp hrest
    obtain ⟨l', ls'', rfl, hl', hrs⟩ := List.map_eq_cons_iff.mp hrest'
    exact .conditional (ih hfirst hvalue hps) hn hl (ih' hsecond htest hqs) hn' hl'
      (ih'' hthird hother hrs) third.level_bounds.1

/-- The text of a legible row is read as the term that the row says. -/
theorem readExpression?_textOf (h : Reads pythonGrammar n ps s) (ht : s.term? = some t)
    (hlegible : Legible ps) : Source.readExpression? (Piece.textOf .python ps) = some t := by
  have hwords := hlegible.words
  obtain ⟨c, cs, hcs, hc⟩ := h.chars_start hwords
  have hscans := Piece.scans_chars h.isChain h.knows h.isFinite hwords hlegible.parentheses
  rw [hcs] at hscans
  exact Source.readExpression?_eq_some hcs hc (Piece.not_return_chars h.knows h.isFinite hwords)
    hscans h.level_bounds.1 fun ls hls => h.expression hwords ht hls

end Grammar.Reads

end ViewModel
