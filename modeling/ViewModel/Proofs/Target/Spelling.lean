import Mathlib.Data.List.MinMax
import ViewModel.Proofs.Source.Scanning
import ViewModel.Proofs.Target.Reading
import ViewModel.Proofs.Text.Capitals

/-!
The text of a printed expression falls into its words again. A literal ends before a blank or a
closing parenthesis, a name before whatever is no part of one, and of the operators that could stand
at a blank the longest one does: no operand of a comparison starts with a negation, so `is` is never
followed by what would make it `is not`.
-/

namespace ViewModel

open Source (isWordPart spanned)
open Source.Scanner (EndsWord isQuoteMark shortBody?)

namespace Piece

/-- An operator between operands or a closing parenthesis. -/
def isJoint : Piece → Bool
  | closing | between _ => true
  | _ => false

def isAccess : Piece → Bool
  | access .. => true
  | _ => false

def isBefore : Piece → Bool
  | before _ => true
  | _ => false

/-- A word with its constant in another form. -/
def recode (f : Scalar → Scalar) : Piece → Piece
  | literal s => literal (f s)
  | p => p

end Piece

namespace Grammar

/-- What stands between operands. -/
def joints (g : Grammar) : List String := g.operators.map Prod.fst ++ [g.opener, g.middle]

/-- Which word may come right after which. Operators that bind at least as closely as a negation
have none after them. -/
def Follows (g : Grammar) : Piece → Piece → Prop
  | .literal _, q => q.isJoint = true
  | .self, q | .access .., q => q.isJoint = true ∨ q.isAccess = true
  | .between op, q => g.negationLevel ≤ g.rank op → q.isBefore = false
  | _, _ => True

/-- The words of operators are those of the grammar. -/
def Knows (g : Grammar) : Piece → Prop
  | .between op => op ∈ g.joints
  | .before word => word = g.negation
  | _ => True

variable {g : Grammar} {n : Nat} {ps : List Piece} {s : Phrase}

theorem mem_joints_of_level {op : String} {k : Nat} (h : g.level op = some k) : op ∈ g.joints :=
  List.mem_append_left _ (List.mem_map.mpr ⟨_, g.mem_operators h, rfl⟩)

theorem rank_middle : g.rank g.middle = Dialect.conditionalLevel := by
  simp [rank, level, g.middle_level]

/-- Whatever stands to its left, a joint may come after it. -/
theorem follows_joint (p : Piece) {q : Piece} (hq : q.isJoint = true) : g.Follows p q := by
  have hbefore : q.isBefore = false := by cases q <;> first | rfl | cases hq
  cases p <;> simp [Follows, hq, hbefore]

/-- The marks of a conditional may have anything after them. -/
theorem follows_mark {op : String} (hop : g.rank op = Dialect.conditionalLevel) (q : Piece) :
    g.Follows (.between op) q := by
  intro hrank
  have hlow := g.negation_bounds.1
  omega

theorem Reads.knows (h : Reads g n ps s) : ∀ p ∈ ps, g.Knows p := by
  induction h with
  | literal => simp [Knows]
  | path accesses =>
    rw [List.forall_mem_cons, List.forall_mem_map]
    exact ⟨trivial, fun _ _ => trivial⟩
  | enclosed _ ih =>
    rw [List.forall_mem_cons, List.forall_mem_append, List.forall_mem_singleton]
    exact ⟨trivial, ih, trivial⟩
  | negated _ _ ih => exact List.forall_mem_cons.mpr ⟨rfl, ih⟩
  | joined hop _ _ _ _ ihl ihr =>
    rw [List.forall_mem_append, List.forall_mem_cons]
    exact ⟨ihl, mem_joints_of_level hop, ihr⟩
  | conditional _ _ _ _ _ ih ih' ih'' =>
    simp only [List.forall_mem_append, List.forall_mem_cons]
    exact ⟨ih, by simp [Knows, joints], ih', by simp [Knows, joints], ih''⟩

/-- In a row that can be read each word may come right after the one before. -/
theorem Reads.isChain (h : Reads g n ps s) : ps.IsChain g.Follows := by
  have joint {ps qs : List Piece} {op : String} (left : ps.IsChain g.Follows)
      (right : qs.IsChain g.Follows) (hhead : ∀ q ∈ qs.head?, g.Follows (.between op) q) :
      (ps ++ .between op :: qs).IsChain g.Follows := by
    refine List.isChain_append.mpr ⟨left, List.isChain_cons.mpr ⟨hhead, right⟩, fun p _ q hq => ?_⟩
    obtain rfl := Option.some.inj hq
    exact follows_joint p rfl
  induction h with
  | literal => exact List.isChain_singleton _
  | path accesses =>
    have haccesses : (accesses.map fun a => Piece.access a.1 a.2).IsChain g.Follows := by
      rw [List.isChain_map]
      exact (List.pairwise_of_forall fun _ _ => .inr rfl).isChain
    refine List.isChain_cons.mpr ⟨fun q hq => .inr ?_, haccesses⟩
    obtain ⟨a, -, rfl⟩ := List.mem_map.mp (List.mem_of_mem_head? hq)
    rfl
  | enclosed _ ih =>
    refine List.isChain_cons.mpr ⟨fun _ _ => trivial, List.isChain_append.mpr
      ⟨ih, List.isChain_singleton _, fun p _ q hq => ?_⟩⟩
    obtain rfl := Option.some.inj hq
    exact follows_joint p rfl
  | negated _ _ ih => exact List.isChain_cons.mpr ⟨fun _ _ => trivial, ih⟩
  | @joined op k _ n' _ qs _ _ hop _ _ hn' right ihl ihr =>
    refine joint ihl ihr fun q hq hrank => ?_
    rw [rank_operator hop] at hrank
    -- a negation binds less closely than the operand of such an operator
    cases q with
    | before word =>
      obtain ⟨rest, rfl⟩ : ∃ rest, qs = .before word :: rest := List.head?_eq_some_iff.mp hq
      have hle := right.le_negationLevel rfl
      omega
    | _ => rfl
  | conditional _ _ _ _ _ ih ih' ih'' =>
    exact joint ih (joint ih' ih'' fun q _ => follows_mark rank_middle q)
      fun q _ => follows_mark rank_opener q

end Grammar

/-- The operators of a target and its word for the instance. -/
structure Lexicon where
  grammar : Grammar
  self : String

namespace Lexicon

/-- Nothing but an operator, a closing parenthesis or the end comes here. -/
def Ends (cs : List Char) : Prop := ∀ c ∈ cs.head?, c = ' ' ∨ c = ')'

/-- The longest operator that stands here before a blank. -/
def joint? (g : Grammar) (cs : List Char) : Option String :=
  (g.joints.filter fun op => (op.toList ++ [' ']).isPrefixOf cs).argmax String.length

/-- A literal and what follows it. One that starts with a quote mark ends with the next mark that
is not escaped. -/
def literalSpan? : List Char → Option (List Char × List Char)
  | [] => none
  | c :: cs =>
      if isQuoteMark c then (shortBody? c cs).map fun b => (c :: b.1 ++ [c], b.2)
      else some ((c :: cs).span fun c => c ≠ ' ' && c ≠ ')')

def access (safe : Bool) (cs : List Char) : Piece × List Char :=
  (.access safe (String.ofList (cs.takeWhile isWordPart)), cs.dropWhile isWordPart)

section Splitting

variable (constant? : String → Option Scalar)

/-- A word that can start an operand, but for a parenthesis. -/
def operand? (x : Lexicon) (cs : List Char) : Option (Piece × List Char) :=
  if x.grammar.negation.toList.isPrefixOf cs then
    some (.before x.grammar.negation, cs.drop x.grammar.negation.length)
  else if cs.takeWhile isWordPart = x.self.toList then some (.self, cs.dropWhile isWordPart)
  else do
    let (w, rest) ← literalSpan? cs
    return (.literal (← constant? (String.ofList w)), rest)

/-- The word at the front of a text, and what follows it. -/
def word? (x : Lexicon) : List Char → Option (Piece × List Char)
  | '(' :: cs => some (.opening, cs)
  | ')' :: cs => some (.closing, cs)
  | '.' :: cs => some (access false cs)
  | '?' :: '.' :: cs => some (access true cs)
  | ' ' :: cs => (joint? x.grammar cs).map fun op => (.between op, cs.drop (op.length + 1))
  | cs => operand? constant? x cs

/-- The words of a text; `constant?` tells the constants of literals. -/
def words? (x : Lexicon) (cs : List Char) : Option (List Piece) :=
  if cs.isEmpty then some []
  else
    match word? constant? x cs with
    | some (p, rest) =>
        if rest.length < cs.length then (words? x rest).map (p :: ·) else none
    | none => none
termination_by cs.length

end Splitting

/-- The characters that start a word of their own. -/
def marks : List Char := ['(', ')', '.', '?', ' ']

/-- The characters that numbers and texts start with. -/
def startsValue (c : Char) : Bool := c = '-' || c.isDigit || isQuoteMark c

/-- The negation and the word for the instance are told by their first characters. -/
structure Distinct (x : Lexicon) : Prop where
  negation : ∃ c cs, x.grammar.negation.toList = c :: cs ∧ c ∉ marks ∧ startsValue c = false
  self : ∃ c cs, x.self.toList = c :: cs ∧ c ∉ marks ∧ startsValue c = false
  heads : x.grammar.negation.toList.head? ≠ x.self.toList.head?
  parts : x.self.toList.all isWordPart = true

/-- A text that is read as a literal wherever it stands. -/
structure IsLiteral (x : Lexicon) (w : List Char) : Prop where
  start : ∃ c cs, w = c :: cs ∧ c ∉ marks
  not_negation : ∀ cs, x.grammar.negation.toList.isPrefixOf (w ++ cs) = false
  not_self : ∀ cs, Ends cs → (w ++ cs).takeWhile isWordPart ≠ x.self.toList
  span : ∀ cs, Ends cs → literalSpan? (w ++ cs) = some (w, cs)

/-- A name as it is read after a point. -/
def IsName (name : String) : Prop := ∀ c ∈ name.toList, isWordPart c = true

/-- What makes the texts of a dialect fall into words. Of two operators, one can only go on as the
other by a negation where none may follow. -/
structure Spells (x : Lexicon) (d : Dialect) : Prop extends x.Distinct where
  self_eq : x.self = d.self
  member_names : ∀ {path nullSafe safe name}, (∀ segment ∈ path, IsName segment) →
    .access safe name ∈ d.member path nullSafe → IsName name
  conditional_names : ∀ {safe name ps qs rs}, .access safe name ∈ d.conditional ps qs rs →
    .access safe name ∈ ps ∨ .access safe name ∈ qs ∨ .access safe name ∈ rs
  joints : ∀ op ∈ x.grammar.joints, ∀ op' ∈ x.grammar.joints,
    op.toList ++ [' '] <+: op'.toList ++ [' '] →
      op = op' ∨ x.grammar.negationLevel ≤ x.grammar.rank op ∧
        op'.toList ++ [' '] = op.toList ++ ' ' :: x.grammar.negation.toList
  literal : ∀ s, x.IsLiteral (d.literal s).toList

section Words

variable {x : Lexicon} {constant? : String → Option Scalar} {d : Dialect} {f : Scalar → Scalar}
  {p : Piece} {ps : List Piece} {c : Char} {cs rest : List Char}

theorem word?_operand (hc : c ∉ marks) :
    word? constant? x (c :: cs) = operand? constant? x (c :: cs) := by
  simp only [marks, List.mem_cons, List.not_mem_nil, or_false, not_or] at hc
  rw [word?] <;> simp_all

/-- A word at the front is the first one. -/
theorem words?_append (h : word? constant? x (cs ++ rest) = some (p, rest)) (hcs : cs ≠ []) :
    words? constant? x (cs ++ rest) = (words? constant? x rest).map (p :: ·) := by
  have hlength := List.length_pos_iff.mpr hcs
  have hlt : rest.length < (cs ++ rest).length := by
    rw [List.length_append]
    omega
  rw [words?, if_neg (by simp [hcs]), h]
  exact if_pos hlt

theorem Distinct.self_not_negation (hx : x.Distinct) (cs : List Char) :
    x.grammar.negation.toList.isPrefixOf (x.self.toList ++ cs) = false := by
  obtain ⟨c, w, hc, -⟩ := hx.negation
  obtain ⟨e, v, he, -⟩ := hx.self
  have hne : c ≠ e := by simpa [hc, he] using hx.heads
  simp [hc, he, List.isPrefixOf, hne]

theorem access_append (safe : Bool) {name : String} (hname : IsName name)
    (hrest : ∀ c ∈ rest.head?, isWordPart c = false) :
    access safe (name.toList ++ rest) = (.access safe name, rest) := by
  obtain ⟨htake, hdrop⟩ := spanned hname hrest
  rw [access, htake, hdrop, String.ofList_toList]

/-- An operator is read at a blank unless a negation follows where none may. -/
theorem joint?_append (hx : x.Spells d) {op : String} (hop : op ∈ x.grammar.joints)
    (hrest : x.grammar.negationLevel ≤ x.grammar.rank op →
      x.grammar.negation.toList.isPrefixOf rest = false) :
    joint? x.grammar (op.toList ++ ' ' :: rest) = some op := by
  have hsplit : op.toList ++ ' ' :: rest = (op.toList ++ [' ']) ++ rest := by simp
  have hself : (op.toList ++ [' ']).isPrefixOf (op.toList ++ ' ' :: rest) = true := by
    rw [hsplit, List.isPrefixOf_iff_prefix]
    exact List.prefix_append _ _
  -- another operator that stands here is a beginning of this one
  have hshort : ∀ op' ∈ x.grammar.joints, (op'.toList ++ [' ']).isPrefixOf
      (op.toList ++ ' ' :: rest) = true → op' = op ∨ op'.length < op.length := by
    intro op' hop' hmatch
    rw [List.isPrefixOf_iff_prefix, hsplit] at hmatch
    rcases List.prefix_or_prefix_of_prefix hmatch (List.prefix_append _ rest) with hpre | hpre
    · have hle := hpre.length_le
      simp only [List.length_append, String.length_toList, List.length_singleton] at hle
      rcases Nat.lt_or_eq_of_le hle with hlt | heq
      · exact .inr (by omega)
      · have hsame : (op'.toList ++ [' ']).length = (op.toList ++ [' ']).length := by
          simp only [List.length_append, String.length_toList, List.length_singleton]
          omega
        exact .inl (String.toList_inj.mp (List.append_cancel_right (hpre.eq_of_length hsame)))
    · rcases hx.joints op hop op' hop' hpre with rfl | ⟨hlevel, heq⟩
      · exact .inl rfl
      · rw [heq, ← List.singleton_append, ← List.append_assoc,
          List.prefix_append_right_inj] at hmatch
        have hno := hrest hlevel
        rw [List.isPrefixOf_iff_prefix.mpr hmatch] at hno
        cases hno
  refine List.argmax_eq_some_iff.mpr ⟨List.mem_filter.mpr ⟨hop, hself⟩, ?_, ?_⟩
  · intro op' hop'
    obtain ⟨hmem, hmatch⟩ := List.mem_filter.mp hop'
    rcases hshort op' hmem hmatch with rfl | hlt
    · exact Nat.le_refl _
    · exact Nat.le_of_lt hlt
  · intro op' hop' hle
    obtain ⟨hmem, hmatch⟩ := List.mem_filter.mp hop'
    rcases hshort op' hmem hmatch with rfl | hlt
    · exact Nat.le_refl _
    · omega

/-- The characters of a row of words. -/
def chars (d : Dialect) (ps : List Piece) : List Char := (Piece.textOf d ps).toList

theorem chars_cons (p : Piece) (ps : List Piece) :
    chars d (p :: ps) = (p.text d).toList ++ chars d ps := by
  simp [chars, Piece.textOf]

theorem chars_append (ps qs : List Piece) : chars d (ps ++ qs) = chars d ps ++ chars d qs := by
  induction ps with
  | nil => simp [chars, Piece.textOf]
  | cons p ps ih => rw [List.cons_append, chars_cons, chars_cons, ih, List.append_assoc]

theorem text_ne_nil (hx : x.Spells d) (hp : x.grammar.Knows p) : (p.text d).toList ≠ [] := by
  cases p with
  | literal s =>
    obtain ⟨c, cs, hcs, -⟩ := (hx.literal s).start
    simp [Piece.text, hcs]
  | self =>
    obtain ⟨c, cs, hcs, -⟩ := hx.self
    simp [Piece.text, ← hx.self_eq, hcs]
  | before word =>
    obtain rfl : word = x.grammar.negation := hp
    obtain ⟨c, cs, hcs, -⟩ := hx.negation
    simp [Piece.text, hcs]
  | access safe name => cases safe <;> simp [Piece.text]
  | opening | closing | between => simp [Piece.text]

theorem chars_ends (h : ∀ q ∈ ps.head?, q.isJoint = true) : Ends (chars d ps) := by
  cases ps with
  | nil => simp [Ends, chars, Piece.textOf]
  | cons q ps =>
    have hq := h q rfl
    cases q <;> simp [Piece.isJoint] at hq <;> simp [Ends, chars_cons, Piece.text]

theorem chars_end_word (h : ∀ q ∈ ps.head?, q.isJoint = true ∨ q.isAccess = true) :
    EndsWord (chars d ps) := by
  cases ps with
  | nil => simp [EndsWord, chars, Piece.textOf]
  | cons q ps =>
    have hq := h q rfl
    cases q with
    | access safe name => cases safe <;> simp [EndsWord, chars_cons, Piece.text] <;> decide
    | closing | between => simp [EndsWord, chars_cons, Piece.text]; decide
    | _ => simp [Piece.isJoint, Piece.isAccess] at hq

theorem chars_not_negation (hx : x.Spells d) (h : ∀ q ∈ ps.head?, q.isBefore = false) :
    x.grammar.negation.toList.isPrefixOf (chars d ps) = false := by
  obtain ⟨c, cs, hcs, hc, -⟩ := hx.negation
  simp only [marks, List.mem_cons, List.not_mem_nil, or_false, not_or] at hc
  obtain ⟨hopening, hclosing, hpoint, hquestion, hblank⟩ := hc
  have other {e : Char} {es : List Char} (he : c ≠ e) : (c :: cs).isPrefixOf (e :: es) = false := by
    simp [List.isPrefixOf, he]
  cases ps with
  | nil => simp [chars, Piece.textOf, hcs]
  | cons q ps =>
    have hq := h q rfl
    rw [chars_cons]
    cases q with
    | literal s => exact (hx.literal s).not_negation _
    | self =>
      rw [Piece.text, ← hx.self_eq]
      exact hx.self_not_negation _
    | before => cases hq
    | opening => simpa [hcs, Piece.text] using other hopening
    | closing => simpa [hcs, Piece.text] using other hclosing
    | between op => simpa [hcs, Piece.text] using other hblank
    | access safe name =>
      cases safe
      · simpa [hcs, Piece.text] using other hpoint
      · simpa [hcs, Piece.text] using other hquestion

/-- Each word is read back where it is followed by one that may come after it. -/
theorem word?_text (hx : x.Spells d) (hp : x.grammar.Knows p)
    (hname : ∀ safe name, p = .access safe name → IsName name)
    (hconstant : ∀ s, p = .literal s → constant? (d.literal s) = some (f s))
    (hfollows : ∀ q ∈ ps.head?, x.grammar.Follows p q) :
    word? constant? x ((p.text d).toList ++ chars d ps) = some (p.recode f, chars d ps) := by
  cases p with
  | opening | closing => simp [Piece.text, word?, Piece.recode]
  | literal s =>
    have hends : Ends (chars d ps) := chars_ends hfollows
    obtain ⟨c, cs, hcs, hc⟩ := (hx.literal s).start
    have hspan := (hx.literal s).span _ hends
    have hself := (hx.literal s).not_self _ hends
    have hnegation := (hx.literal s).not_negation (chars d ps)
    simp only [Piece.text, hcs, List.cons_append] at hspan hself hnegation ⊢
    rw [word?_operand hc, operand?, if_neg (by simp [hnegation]), if_neg hself, hspan]
    simp [← hcs, hconstant s rfl, Piece.recode]
  | self =>
    obtain ⟨c, cs, hcs, hc, -⟩ := hx.self
    have hends : EndsWord (chars d ps) := chars_end_word hfollows
    obtain ⟨htake, hdrop⟩ := spanned (List.all_eq_true.mp hx.parts) hends.not_part
    have hnegation := hx.self_not_negation (chars d ps)
    simp only [Piece.text, ← hx.self_eq, hcs, List.cons_append] at htake hdrop hnegation ⊢
    rw [word?_operand hc, operand?, if_neg (by simp [hnegation]), htake, hcs, if_pos rfl, hdrop]
    rfl
  | access safe name =>
    have hends : EndsWord (chars d ps) := chars_end_word hfollows
    have haccess := access_append safe (hname safe name rfl) hends.not_part
    cases safe <;> simp [Piece.text, word?, haccess, Piece.recode]
  | between op =>
    have hjoint := joint?_append hx hp fun hlevel =>
      chars_not_negation hx fun q hq => hfollows q hq hlevel
    have hdrop : (op.toList ++ ' ' :: chars d ps).drop (op.length + 1) = chars d ps := by
      rw [← List.singleton_append, ← List.append_assoc]
      exact List.drop_left' (by rw [List.length_append, String.length_toList]; rfl)
    simp [Piece.text, word?, hjoint, hdrop, Piece.recode]
  | before word =>
    obtain rfl : word = x.grammar.negation := hp
    obtain ⟨c, cs, hcs, hc, -⟩ := hx.negation
    have hself : x.grammar.negation.toList.isPrefixOf
        (x.grammar.negation.toList ++ chars d ps) = true := by
      rw [List.isPrefixOf_iff_prefix]
      exact List.prefix_append _ _
    rw [Piece.text]
    rw [hcs, List.cons_append, word?_operand hc, ← List.cons_append, ← hcs, operand?, if_pos hself,
      List.drop_left' String.length_toList]
    rfl

/-- A row whose words may come after each other is what its text is split into. -/
theorem words?_chars (hx : x.Spells d) (hchain : ps.IsChain x.grammar.Follows)
    (hknows : ∀ p ∈ ps, x.grammar.Knows p)
    (hnames : ∀ safe name, .access safe name ∈ ps → IsName name)
    (hconstants : ∀ s, .literal s ∈ ps → constant? (d.literal s) = some (f s)) :
    words? constant? x (chars d ps) = some (ps.map (Piece.recode f)) := by
  induction ps with
  | nil => simp [words?, chars, Piece.textOf]
  | cons p ps ih =>
    obtain ⟨hfollows, hchain⟩ := List.isChain_cons.mp hchain
    obtain ⟨hp, hknows⟩ := List.forall_mem_cons.mp hknows
    have hword : word? constant? x ((p.text d).toList ++ chars d ps) =
        some (p.recode f, chars d ps) :=
      word?_text hx hp (fun safe name h => hnames safe name (h ▸ List.mem_cons_self))
        (fun s h => hconstants s (h ▸ List.mem_cons_self)) hfollows
    have hrest := ih hchain hknows (fun safe name h => hnames safe name (List.mem_cons_of_mem _ h))
      fun s h => hconstants s (List.mem_cons_of_mem _ h)
    rw [chars_cons, words?_append hword (text_ne_nil hx hp), hrest]
    rfl

end Words

section Literals

variable {x : Lexicon} {c : Char} {w cs : List Char} {n : Numeral}

theorem Ends.not_part (h : Ends cs) : ∀ c ∈ cs.head?, isWordPart c = false := by
  intro c hc
  rcases h c hc with rfl | rfl <;> decide

/-- What is not quoted is read up to a blank or a parenthesis. -/
theorem span_plain (hquote : isQuoteMark c = false) (hw : ∀ e ∈ c :: w, e ≠ ' ' ∧ e ≠ ')')
    (hcs : Ends cs) : literalSpan? (c :: w ++ cs) = some (c :: w, cs) := by
  have hall : ∀ e ∈ c :: w, (e ≠ ' ' && e ≠ ')') = true := fun e he => by simpa using hw e he
  rw [List.cons_append, literalSpan?, hquote, if_neg Bool.false_ne_true, ← List.cons_append,
    List.span_eq_takeWhile_dropWhile, List.takeWhile_append_of_pos hall,
    List.dropWhile_append_of_pos hall]
  cases cs with
  | nil => simp
  | cons e cs => rcases hcs e rfl with rfl | rfl <;> simp

/-- What starts as a number or a text does is a literal. -/
theorem Distinct.isLiteral (hx : x.Distinct) (hc : startsValue c = true)
    (hspan : ∀ cs, Ends cs → literalSpan? (c :: w ++ cs) = some (c :: w, cs)) :
    x.IsLiteral (c :: w) where
  start := by
    refine ⟨c, w, rfl, fun hmark => ?_⟩
    have hnone : marks.all (fun e => !startsValue e) = true := by decide
    have hno := List.all_eq_true.mp hnone c hmark
    rw [hc] at hno
    cases hno
  not_negation cs := by
    obtain ⟨e, es, he, -, hno⟩ := hx.negation
    have hne : e ≠ c := by
      rintro rfl
      cases hc.symm.trans hno
    simp [he, List.isPrefixOf, hne]
  not_self cs _ := by
    obtain ⟨e, es, he, -, hno⟩ := hx.self
    have hne : c ≠ e := by
      rintro rfl
      cases hc.symm.trans hno
    rw [he, List.cons_append, List.takeWhile_cons]
    split <;> simp [hne]
  span := hspan

/-- A word that is neither the one for the instance nor a beginning or a continuation of the
negation. -/
def IsPlain (x : Lexicon) (w : List Char) : Prop :=
  w ≠ [] ∧ w.all isWordPart = true ∧ w ≠ x.self.toList ∧
    ¬x.grammar.negation.toList <+: w ∧ ¬w <+: x.grammar.negation.toList

instance : Decidable (x.IsPlain w) := inferInstanceAs (Decidable (_ ∧ _))

theorem IsPlain.isLiteral (h : x.IsPlain w) : x.IsLiteral w := by
  obtain ⟨hne, hparts, hself, hshort, hlong⟩ := h
  have hw := List.all_eq_true.mp hparts
  obtain ⟨c, w, rfl⟩ := List.exists_cons_of_ne_nil hne
  have hc := hw c List.mem_cons_self
  refine ⟨⟨c, w, rfl, fun hmark => ?_⟩, fun cs => ?_,
    fun cs hcs => (spanned hw hcs.not_part).1.symm ▸ hself, fun cs hcs =>
      span_plain (Source.Scanner.isQuoteMark_of_isWordPart hc) (fun e he => ?_) hcs⟩
  · have hnone : marks.all (fun e => !isWordPart e) = true := by decide
    have hno := List.all_eq_true.mp hnone c hmark
    rw [hc] at hno
    cases hno
  · rw [← Bool.not_eq_true, List.isPrefixOf_iff_prefix]
    intro hnegation
    exact (List.prefix_or_prefix_of_prefix hnegation (List.prefix_append _ cs)).elim hshort hlong
  · have hpart := hw e he
    constructor <;> rintro rfl <;> exact absurd hpart (by decide)

/-- A text of digits and signs that starts with a digit or a minus. -/
def IsNumber (w : List Char) : Prop :=
  w.head?.any (fun c => c = '-' || c.isDigit) = true ∧ w.all (fun c => c ≠ ' ' && c ≠ ')') = true

instance : Decidable (IsNumber w) := inferInstanceAs (Decidable (_ ∧ _))

theorem isNumber_text (h : n.WellFormed) (negative : Bool) :
    IsNumber (Numeral.signText negative ++ n.text) := by
  have htext : ∀ c ∈ n.text, c ≠ ' ' ∧ c ≠ ')' := by
    intro c hc
    have hmark : ∀ c ∈ ['.', 'e', '+', '-'], c ≠ ' ' ∧ c ≠ ')' :=
      List.all_iff_forall_prop.mp (by decide)
    rcases h.mem_text hc with hdigit | hmem
    · constructor <;> rintro rfl <;> cases hdigit
    · exact hmark c hmem
  obtain ⟨c, cs, hcs⟩ := h.exists_cons
  cases negative with
  | false =>
    have hc := h.wholeDigits c (by simp [hcs])
    exact ⟨by simp [Numeral.signText, Numeral.text, hcs, hc],
      by simpa [Numeral.signText] using htext⟩
  | true => exact ⟨rfl, by simpa [Numeral.signText] using htext⟩

theorem isNumber_intText (n : Int) : IsNumber (intText n).toList := by
  rw [Numeral.text_intText]
  exact isNumber_text (Numeral.wellFormed_ofNat _) _

theorem isNumber_float {negative : Bool} {m : Nat} {e : Int} (h : Canonical m e) :
    IsNumber (Double.finite negative m e h).text.toList := by
  obtain ⟨n, hwell, htext, -⟩ := Numeral.text_finite negative h
  rw [htext]
  exact isNumber_text hwell negative

/-- A text between quote marks that nothing in it ends before the last one. -/
def IsQuotation (w : List Char) : Prop :=
  ∃ mark body, w = mark :: body ++ [mark] ∧ isQuoteMark mark = true ∧
    ∀ cs, shortBody? mark (body ++ mark :: cs) = some (body, cs)

theorem isQuotation_encode (cs : List Char) : IsQuotation (Text.Quoted.encode cs) := by
  have hmark := Source.isMark_mark cs
  refine ⟨_, _, rfl, ?_, Source.Scanner.shortBody?_flatMap hmark
    (Source.Scanner.shortBody?_escape hmark) cs⟩
  rcases hmark with h | h <;> rw [h] <;> rfl

theorem isQuotation_json (cs : List Char) :
    IsQuotation ('"' :: cs.flatMap Json.escape ++ ['"']) :=
  ⟨'"', _, rfl, rfl,
    Source.Scanner.shortBody?_flatMap (.inr rfl) Source.Scanner.shortBody?_jsonEscape cs⟩

theorem isQuotation_literal (t : Target) (s : String) :
    IsQuotation (t.dialect.literal (.text s)).toList := by
  cases t with
  | csharp | typescript =>
    show IsQuotation (String.ofList _).toList
    rw [String.toList_ofList]
    exact isQuotation_json s.toList
  | python =>
    show IsQuotation (String.ofList _).toList
    rw [String.toList_ofList]
    exact isQuotation_encode s.toList

theorem IsNumber.isLiteral (hx : x.Distinct) (h : IsNumber w) : x.IsLiteral w := by
  obtain ⟨hhead, hall⟩ := h
  have hw : ∀ c ∈ w, c ≠ ' ' ∧ c ≠ ')' := by simpa using hall
  cases w with
  | nil => cases hhead
  | cons c w =>
    have hc : c = '-' ∨ c.isDigit = true := by simpa using hhead
    refine hx.isLiteral ?_ fun cs hcs => span_plain ?_ hw hcs
    · rcases hc with rfl | hc
      · rfl
      · simp [startsValue, hc]
    · rcases hc with rfl | hc
      · rfl
      · exact Source.Scanner.isQuoteMark_of_isWordPart (by simp [isWordPart, Char.isAlphanum, hc])

theorem IsQuotation.isLiteral (hx : x.Distinct) (h : IsQuotation w) : x.IsLiteral w := by
  obtain ⟨mark, body, rfl, hmark, hbody⟩ := h
  refine hx.isLiteral (by simp [startsValue, hmark]) fun cs _ => ?_
  have hbody := hbody cs
  simp [literalSpan?, hmark, hbody]

/-- The literals of a target are read as such if its words are. -/
theorem Distinct.isLiteral_literal (hx : x.Distinct) (t : Target)
    (hwords : ∀ w ∈ ["inf", "nan", t.dialect.literal .null, t.dialect.literal (.bool true),
      t.dialect.literal (.bool false)], x.IsPlain w.toList) (s : Scalar) :
    x.IsLiteral (t.dialect.literal s).toList := by
  cases s with
  | null => exact (hwords _ (by simp)).isLiteral
  | bool b => cases b <;> exact (hwords _ (by simp)).isLiteral
  | text s => exact (isQuotation_literal t s).isLiteral hx
  | int n =>
    rw [t.literal_int]
    exact (isNumber_intText n).isLiteral hx
  | float y =>
    rw [t.literal_float]
    cases y with
    | nan => exact (hwords "nan" (by simp)).isLiteral
    | infinite negative =>
      cases negative
      · exact (hwords "inf" (by simp)).isLiteral
      · exact IsNumber.isLiteral hx (by decide)
    | finite negative m e h => exact (isNumber_float h).isLiteral hx

end Literals

end Lexicon

/-- Every name that is read is one in the text. -/
def Expr.Named (e : Expr) : Prop := ∀ path ∈ e.paths, ∀ name ∈ path, Lexicon.IsName name

section Rows

variable {g : Grammar} {n : Nat} {f : Scalar → Scalar} {ps : List Piece} {s : Phrase}

theorem Grammar.follows_recode {p q : Piece} :
    g.Follows (p.recode f) (q.recode f) ↔ g.Follows p q := by
  cases p <;> cases q <;> rfl

theorem Grammar.knows_recode {p : Piece} : g.Knows (p.recode f) ↔ g.Knows p := by
  cases p <;> rfl

theorem Grammar.Reads.isFinite (h : g.Reads n ps s) :
    ∀ c, .literal c ∈ ps → c.isFinite = true := by
  induction h with
  | literal h =>
    intro c hc
    obtain rfl := Piece.literal.inj (List.mem_singleton.mp hc)
    exact h
  | path => simp
  | enclosed _ ih => simpa using ih
  | negated _ _ ih => simpa using ih
  | joined _ _ _ _ _ ihl ihr =>
    intro c hc
    simp only [List.mem_append, List.mem_cons, reduceCtorEq, false_or] at hc
    exact hc.elim (ihl c) (ihr c)
  | conditional _ _ _ _ _ ih ih' ih'' =>
    intro c hc
    simp only [List.mem_append, List.mem_cons, reduceCtorEq, false_or] at hc
    exact hc.elim (ih c) fun hc => hc.elim (ih' c) (ih'' c)

end Rows

section Names

variable {x : Lexicon} {d : Dialect} {safe : Bool} {name : String}

theorem Dialect.mem_of_mem_enclose {least level : Nat} {ps : List Piece}
    (h : .access safe name ∈ Dialect.enclose least level ps) : .access safe name ∈ ps := by
  unfold Dialect.enclose at h
  split at h
  · simpa using h
  · exact h

/-- What is printed for an expression reads its names, or those that the dialect makes of them. -/
theorem Lexicon.Spells.names (hx : x.Spells d) {e : Expr} (he : e.Named)
    (h : .access safe name ∈ d.pieces e) : IsName name := by
  induction e with
  | hole => simp [Dialect.pieces] at h
  | literal => simp [Dialect.pieces] at h
  | member path nullSafe => exact hx.member_names (he path (List.mem_singleton_self _)) h
  | nullCheck e negated ih =>
    simp only [Dialect.pieces, List.mem_append, List.mem_cons, reduceCtorEq, List.not_mem_nil,
      or_false] at h
    exact ih he (Dialect.mem_of_mem_enclose h)
  | not e ih =>
    simp only [Dialect.pieces, List.mem_cons, reduceCtorEq, false_or] at h
    exact ih he (Dialect.mem_of_mem_enclose h)
  | binary op l r ihl ihr =>
    obtain ⟨hl, hr⟩ := List.forall_mem_append.mp he
    simp only [Dialect.pieces, List.mem_append, List.mem_cons, reduceCtorEq, false_or] at h
    rcases h with h | h
    · exact ihl hl (Dialect.mem_of_mem_enclose h)
    · exact ihr hr (Dialect.mem_of_mem_enclose h)
  | ternary c t f ihc iht ihf =>
    obtain ⟨hboth, hf⟩ := List.forall_mem_append.mp he
    obtain ⟨hc, ht⟩ := List.forall_mem_append.mp hboth
    rcases hx.conditional_names h with h | h | h
    · exact ihc hc (Dialect.mem_of_mem_enclose h)
    · exact iht ht (Dialect.mem_of_mem_enclose h)
    · exact ihf hf (Dialect.mem_of_mem_enclose h)

end Names

section Brace

variable {safe : Bool} {name : String}

theorem isName_of_isWordLetter {cs : List Char} (h : ∀ c ∈ cs, Text.isWordLetter c = true) :
    Lexicon.IsName (String.ofList cs) := by
  intro c hc
  rw [String.toList_ofList] at hc
  exact Text.of_isWordLetter (P := fun c => isWordPart c = true) (h c hc) (by decide)

theorem braceMember_names {rename : String → String} (hrename : ∀ s, Lexicon.IsName (rename s))
    {path : List String} {nullSafe : List Int}
    (h : .access safe name ∈ Dialect.braceMember rename path nullSafe) : Lexicon.IsName name := by
  rw [Dialect.braceMember, accesses_eq] at h
  simp only [List.mem_cons, reduceCtorEq, false_or, List.mem_map, Piece.access.injEq] at h
  obtain ⟨step, hstep, -, rfl⟩ := h
  have hsteps : ∀ i, step ∈ steps rename nullSafe i path → Lexicon.IsName step.2 := by
    clear hstep
    induction path with
    | nil => simp [steps]
    | cons segment rest ih =>
      intro i hstep
      rcases List.mem_cons.mp hstep with rfl | hstep
      · exact hrename segment
      · exact ih (i + 1) hstep
  exact hsteps 0 hstep

theorem braceConditional_names {ps qs rs : List Piece}
    (h : .access safe name ∈ Dialect.braceConditional ps qs rs) :
    .access safe name ∈ ps ∨ .access safe name ∈ qs ∨ .access safe name ∈ rs := by
  simpa [Dialect.braceConditional] using h

end Brace

section Python

variable {safe : Bool} {name : String}

theorem plainMember_names {path : List String}
    (h : .access safe name ∈ Dialect.plainMember path) : name ∈ path := by
  simp only [Dialect.plainMember, List.mem_cons, reduceCtorEq, false_or, List.mem_map,
    Piece.access.injEq] at h
  obtain ⟨_, hmem, -, rfl⟩ := h
  exact hmem

theorem guard_names {receiver : List String} (h : .access safe name ∈ Dialect.guard receiver) :
    name ∈ receiver := by
  have hplain : .access safe name ∈ Dialect.plainMember receiver := by
    simpa [Dialect.guard] using h
  exact plainMember_names hplain

/-- The tests before a path read names of the path. -/
theorem pythonMember_names {path : List String} {nullSafe : List Int}
    (h : .access safe name ∈ Dialect.pythonMember path nullSafe) : name ∈ path := by
  unfold Dialect.pythonMember at h
  split at h
  · exact plainMember_names h
  next first more hguarded =>
    have hreceiver : ∀ receiver ∈ first :: more, name ∈ receiver → name ∈ path := by
      rw [← hguarded]
      intro receiver hmem hname
      obtain ⟨before, after, rfl, rfl, -⟩ := mem_guardedPrefixes hmem
      exact List.mem_append_left _ hname
    simp only [List.cons_append, List.mem_cons, reduceCtorEq, false_or, List.mem_append,
      Dialect.guards, List.mem_flatMap, List.not_mem_nil, or_false] at h
    rcases h with h | h | ⟨receiver, hmem, h⟩
    · exact plainMember_names h
    · exact hreceiver first List.mem_cons_self (guard_names h)
    · exact hreceiver receiver (List.mem_cons_of_mem _ hmem) (guard_names h)

end Python

def Reading.lexicon {d : Dialect} (r : Reading d) : Lexicon := ⟨r.grammar, d.self⟩

theorem csharp_distinct : csharpReading.lexicon.Distinct where
  negation := ⟨'!', [], rfl, by decide⟩
  self := ⟨'t', ['h', 'i', 's'], rfl, by decide⟩
  heads := by decide
  parts := by decide

theorem csharp_spells : csharpReading.lexicon.Spells .csharp where
  toDistinct := csharp_distinct
  self_eq := rfl
  member_names _ := braceMember_names fun s =>
    isName_of_isWordLetter fun _ => Text.isWordLetter_of_mem_pascalCase
  conditional_names := braceConditional_names
  joints := by decide
  literal := csharp_distinct.isLiteral_literal .csharp (by decide)

theorem typescript_distinct : typescriptReading.lexicon.Distinct where
  negation := ⟨'!', [], rfl, by decide⟩
  self := ⟨'t', ['h', 'i', 's'], rfl, by decide⟩
  heads := by decide
  parts := by decide

theorem typescript_spells : typescriptReading.lexicon.Spells .typescript where
  toDistinct := typescript_distinct
  self_eq := rfl
  member_names _ := braceMember_names fun s =>
    isName_of_isWordLetter fun _ => Text.isWordLetter_of_mem_camelCase
  conditional_names := braceConditional_names
  joints := by decide
  literal := typescript_distinct.isLiteral_literal .typescript (by decide)

theorem python_distinct : pythonReading.lexicon.Distinct where
  negation := ⟨'n', ['o', 't', ' '], rfl, by decide⟩
  self := ⟨'s', ['e', 'l', 'f'], rfl, by decide⟩
  heads := by decide
  parts := by decide

theorem python_spells : pythonReading.lexicon.Spells .python where
  toDistinct := python_distinct
  self_eq := rfl
  member_names hpath h := hpath _ (pythonMember_names h)
  conditional_names h := by
    simp only [Dialect.python, List.mem_append, List.mem_cons, reduceCtorEq, false_or] at h
    tauto
  joints := by decide
  literal := python_distinct.isLiteral_literal .python (by decide)

/-- The words of a text of the target; `constant?` tells the constants of literals. -/
def Reading.words? {d : Dialect} (r : Reading d) (constant? : String → Option Scalar)
    (text : String) : Option (List Piece) :=
  Lexicon.words? constant? r.lexicon text.toList

/-- The text of an expression is split into its words, whatever becomes of its constants. -/
theorem Reading.words?_textOf {d : Dialect} {r : Reading d} (hr : r.lexicon.Spells d) {e : Expr}
    (hnamed : e.Named) {f h : Scalar → Scalar} {n : Nat} {s : Phrase}
    (hread : r.grammar.Reads n ((d.pieces e).map (Piece.recode h)) s)
    {constant? : String → Option Scalar}
    (hconstants : ∀ c, .literal c ∈ d.pieces e → constant? (d.literal c) = some (f c)) :
    r.words? constant? (Piece.textOf d (d.pieces e)) =
      some ((d.pieces e).map (Piece.recode f)) := by
  have hchain : (d.pieces e).IsChain r.grammar.Follows := by
    have hchain := hread.isChain
    rw [List.isChain_map] at hchain
    exact hchain.imp fun _ _ => Grammar.follows_recode.mp
  have hknows : ∀ p ∈ d.pieces e, r.grammar.Knows p := fun p hp =>
    Grammar.knows_recode.mp (hread.knows _ (List.mem_map_of_mem hp))
  exact Lexicon.words?_chars hr hchain hknows (fun _ _ => hr.names hnamed) hconstants

theorem Piece.map_recode_id (ps : List Piece) : ps.map (Piece.recode id) = ps := by
  have hid : Piece.recode id = id := by
    funext p
    cases p <;> rfl
  rw [hid, List.map_id]

/-- Where every constant has a literal, the words are those that were printed. -/
theorem Reading.words?_pieces {d : Dialect} (r : Reading d) (hr : r.lexicon.Spells d) {e : Expr}
    (hnamed : e.Named) {n : Nat} {s : Phrase} (hread : r.grammar.Reads n (d.pieces e) s) :
    r.words? r.constant? (Piece.textOf d (d.pieces e)) = some (d.pieces e) := by
  have hconstants : ∀ c, .literal c ∈ d.pieces e → r.constant? (d.literal c) = some (id c) :=
    fun c hc => r.constant?_literal c (hread.isFinite c hc)
  rw [← Piece.map_recode_id (d.pieces e)] at hread
  exact (Reading.words?_textOf hr hnamed hread hconstants).trans
    (congrArg some (Piece.map_recode_id _))

end ViewModel
