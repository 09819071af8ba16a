import ViewModel.Proofs.Source.Brackets
import ViewModel.Proofs.Source.Operators

/-!
Reading names in the brackets of other names. A name with one expression as its index is one more
way to put expressions together, and nested ones are read by recursion on the names around. Where
the tokens end inside brackets nothing is read.
-/

namespace ViewModel.Source

/-- The term that a name in the brackets of others writes. -/
def nestedTerm (core : String) : List String → Term
  | [] => .name (Text.normalize core)
  | w :: outer => .subscript (.name (Text.normalize w)) (nestedTerm core outer)

namespace Expression

open Reader

variable {self : Goal → Reader Term} {ls rest : List Lexeme} {t : Term} {e : Stop} {k n n' : Nat}

/-- Where a name stands, an expression is what the level of names and brackets reads. -/
theorem read_passes (fuel : Nat) (hname : AtName ls) :
    Passes 0 (read (fuel + 3) .expression) (primary (read fuel)) ls := by
  have hnone : ∀ s, token? ls = some (.symbol s) → prefixes.lookup s = none := by
    obtain ⟨n, hn, -⟩ := hname
    intro s hs
    cases hn.symm.trans hs
  have hlevels : Passes 0 (reader fuel 0) (reader fuel operandLevel) ls :=
    reader_passes (hname.ne_word (by decide)) (by decide) fun _ => hname.ne_word (by decide)
  have hoperand : Passes operandLevel (reader fuel operandLevel) (factor (read fuel)) ls :=
    bitwiseOr_passes (read (fuel + 1)) ls
  have hfactor : Passes operandLevel (factor (read fuel)) (primary (read fuel)) ls :=
    .trans (.of_eq (factor_eq _ hnone)) (power_passes _ (hname.ne_word (by decide)))
  exact hlevels.trans ((hoperand.trans hfactor).mono (by decide))

/-- An index stands here that is neither a star nor a slice without a start, nor an assignment to a
name. -/
structure AtIndex (ls : List Lexeme) : Prop where
  not_star : token? ls ≠ some (.symbol "*")
  not_slice : token? ls ≠ some (.symbol ":")
  no_assignment : token? ls.tail ≠ some (.symbol ":=")

theorem atIndex_of_atName (hname : AtName ls)
    (hassignment : token? ls.tail ≠ some (.symbol ":=")) : AtIndex ls := by
  obtain ⟨n, hn, -⟩ := hname
  exact ⟨by simp [hn], by simp [hn], hassignment⟩

theorem Says.atIndex (h : Says n ls t) {l : Lexeme} (hl : l.token ≠ .symbol ":=") :
    AtIndex (ls ++ l :: rest) := by
  have hopens : Opens n (ls ++ l :: rest) := h.opens.append _ id
  exact ⟨hopens.ne (by decide), hopens.ne (by decide), h.tail_ne hl⟩

theorem sliceItem_passes (self : Goal → Reader Term) (hindex : AtIndex ls) :
    Passes 0 (sliceItem self) (named self) ls := by
  have hstar : atSymbol "*" ls = .ok (false, ls) := atToken_of_ne hindex.not_star
  have hcolon : optionalSymbol ":" ls = .ok (false, ls) := optional_of_ne hindex.not_slice
  refine ⟨fun {t rest} h hrest => ?_, fun h => ?_⟩
  · have hend : optionalSymbol ":" rest = .ok (false, rest) :=
      optional_of_ne (hrest.ne (by decide))
    rw [sliceItem, bind_ok hstar]
    simp only [Bool.false_eq_true, if_false]
    rw [bind_ok hcolon]
    simp only [Bool.false_eq_true, if_false]
    rw [bind_ok h, bind_ok hend]
    rfl
  · rw [sliceItem, bind_ok hstar]
    simp only [Bool.false_eq_true, if_false]
    rw [bind_ok hcolon]
    simp only [Bool.false_eq_true, if_false]
    rw [bind_error h]

theorem slices_ok (hindex : AtIndex ls) (h : self .expression ls = .ok (t, rest))
    (hrest : Ends 0 rest) (hstar : t.isStarred = false) : slices self ls = .ok (t, rest) := by
  have hitem := ((sliceItem_passes self hindex).trans
    (named_passes self hindex.no_assignment)).ok h hrest
  rw [slices, bind_ok (commaList_of_ends hitem hrest)]
  simp only [hstar, Bool.false_eq_true, if_false]
  rfl

theorem slices_error (hindex : AtIndex ls) (h : self .expression ls = .error e) :
    slices self ls = .error e := by
  have hitem := ((sliceItem_passes self hindex).trans
    (named_passes self hindex.no_assignment)).error h
  rw [slices, commaList, bind_error (bind_error hitem)]

section Names

variable {l b c : Lexeme} {inner : List Lexeme} {w : String}

/-- What an index and its closing bracket are read as. -/
def closed (self : Goal → Reader Term) (t : Term) : Reader (Option Term) := do
  let index ← slices self
  Reader.symbol "]"
  return some (.subscript t index)

theorem trailer_bracket (self : Goal → Reader Term) (t : Term) (hb : b.token = .symbol "[") :
    trailer self t (b :: inner) = closed self t inner := by
  have hnext : next? (b :: inner) = .ok (some (.symbol "["), b :: inner) := by
    rw [← hb]
    rfl
  rw [trailer, bind_ok hnext]
  rfl

variable (hl : l.token = .word w) (hw : isReserved w = false)
  (hb : b.token = .symbol "[")
include hl hw hb

theorem primary_bracket_ok (h : closed self (.name (Text.normalize w)) inner = .ok (some t, rest))
    (hrest : Ends k rest) : primary self (l :: b :: inner) = .ok (t, rest) := by
  rw [← trailer_bracket self _ hb] at h
  rw [primary_eq, bind_ok (atom_name self hl hw), loop, bind_ok (get_eq _), List.length_cons,
    iterate, bind_ok h]
  exact iterate_stop (trailer_ends self t hrest) _

theorem primary_bracket_error (h : closed self (.name (Text.normalize w)) inner = .error e) :
    primary self (l :: b :: inner) = .error e := by
  rw [← trailer_bracket self _ hb] at h
  rw [primary_eq, bind_ok (atom_name self hl hw), loop, bind_ok (get_eq _), List.length_cons,
    iterate, bind_error h]

/-- A name with one expression as its index. -/
theorem Says.subscript (hk : operandLevel ≤ k) (h : Says n ls t) (hn : 1 ≤ n)
    (hc : c.token = .symbol "]") :
    Says k (l :: b :: (ls ++ [c])) (.subscript (.name (Text.normalize w)) t) := by
  have hopens {rest : List Lexeme} : Opens k (l :: rest) :=
    opens_of_atName ⟨w, congrArg some hl, hw⟩
  refine .operand hk hopens ?_ rfl fun fuel rest hfuel hrest => ?_
  · simp only [List.forall_mem_cons, List.forall_mem_append]
    exact ⟨by simp [hl], by simp [hb], h.no_assignment, by simp [hc]⟩
  · simp only [List.length_cons, List.length_append, List.length_nil] at hfuel
    obtain ⟨fuel, rfl⟩ := Nat.exists_eq_add_of_le' (show 3 ≤ fuel by omega)
    have hclose : Ends 0 (c :: rest) := ends_of_token (by decide) hc
    have hinner : Expression.read (fuel + 3) .expression (ls ++ c :: rest) = .ok (t, c :: rest) :=
      h.read hn (by omega) (hclose.mono (Nat.zero_le 1))
    have hbracket : Reader.symbol "]" (c :: rest) = .ok ((), rest) := token_of_eq (congrArg some hc)
    have hclosed : closed (Expression.read (fuel + 3)) (.name (Text.normalize w))
        (ls ++ c :: rest) = .ok (some (.subscript (.name (Text.normalize w)) t), rest) := by
      rw [closed, bind_ok (slices_ok (h.atIndex (by simp [hc])) hinner hclose h.not_starred),
        bind_ok hbracket]
      rfl
    have hwhole : l :: b :: (ls ++ [c]) ++ rest = l :: b :: (ls ++ c :: rest) := by simp
    rw [hwhole]
    exact factor_primary hopens (fun s hs => by cases hl.symm.trans (Option.some.inj hs))
      (primary_bracket_ok hl hw hb hclosed hrest) hrest

end Names

section Nested

variable {core : String} {outer : List String} {fuel : Nat} (hcore : isReserved core = false)
  (houter : ∀ w ∈ outer, isReserved w = false)
include hcore houter

/-- Tokens of a name in the brackets of others are read as such. -/
theorem nested_expression (hls : ls.map Lexeme.token = nestedTokens core outer) :
    Says operandLevel ls (nestedTerm core outer) := by
  induction outer generalizing ls with
  | nil =>
    obtain ⟨l, rfl, hl⟩ := List.map_eq_singleton_iff.mp hls
    exact .path (by decide) hl hcore (List.forall_mem_nil _) rfl
  | cons w outer ih =>
    obtain ⟨hw, houter⟩ := List.forall_mem_cons.mp houter
    obtain ⟨l, more, rfl, hl, hmore⟩ := List.map_eq_cons_iff.mp hls
    obtain ⟨b, more, rfl, hb, hmore⟩ := List.map_eq_cons_iff.mp hmore
    obtain ⟨ls, last, rfl, hinner, hlast⟩ := List.map_eq_append_iff.mp hmore
    obtain ⟨c, rfl, hc⟩ := List.map_eq_singleton_iff.mp hlast
    exact .subscript hl hw hb (by decide) (ih houter hinner) (by decide) hc

theorem atIndex_cut (hls : ls.map Lexeme.token = cutTokens core k outer) : AtIndex ls := by
  cases outer with
  | nil =>
    obtain ⟨l, rfl, hl⟩ := List.map_eq_singleton_iff.mp hls
    exact atIndex_of_atName ⟨core, congrArg some hl, hcore⟩ (by simp [token?])
  | cons w outer =>
    obtain ⟨l, more, rfl, hl, hmore⟩ := List.map_eq_cons_iff.mp hls
    refine atIndex_of_atName ⟨w, congrArg some hl, houter w List.mem_cons_self⟩ ?_
    split at hmore
    · obtain rfl := List.map_eq_nil_iff.mp hmore
      simp [token?]
    · obtain ⟨b, inner, rfl, hb, -⟩ := List.map_eq_cons_iff.mp hmore
      simp [token?, hb]

/-- Where the tokens end inside brackets, nothing is read, or all that is left. -/
theorem read_cut (hls : ls.map Lexeme.token = cutTokens core k outer)
    (hfuel : 3 * ls.length ≤ fuel) :
    (∃ e, read (fuel + 3) .expression ls = .error e) ∨
      ∃ t, t.isStarred = false ∧ read (fuel + 3) .expression ls = .ok (t, []) := by
  have hend : Ends 0 [] := ends_nil
  -- a name that nothing follows is all that is left
  have hname {fuel : Nat} {l : Lexeme} {w : String} (hl : l.token = .word w)
      (hw : isReserved w = false) :
      read (fuel + 3) .expression [l] = .ok (.name (Text.normalize w), []) := by
    have hat : AtName [l] := ⟨w, congrArg some hl, hw⟩
    exact (read_passes fuel hat).ok (primary_atom _ (atom_name _ hl hw) hend) hend
  induction outer generalizing k ls fuel with
  | nil =>
    obtain ⟨l, rfl, hl⟩ := List.map_eq_singleton_iff.mp hls
    exact .inr ⟨_, rfl, hname hl hcore⟩
  | cons w outer ih =>
    obtain ⟨hw, houter⟩ := List.forall_mem_cons.mp houter
    obtain ⟨l, more, rfl, hl, hmore⟩ := List.map_eq_cons_iff.mp hls
    split at hmore
    · obtain rfl := List.map_eq_nil_iff.mp hmore
      exact .inr ⟨_, rfl, hname hl hw⟩
    · obtain ⟨b, inner, rfl, hb, hinner⟩ := List.map_eq_cons_iff.mp hmore
      simp only [List.length_cons] at hfuel
      obtain ⟨fuel, rfl⟩ := Nat.exists_eq_add_of_le' (show 3 ≤ fuel by omega)
      have hindex := atIndex_cut hcore houter hinner
      have hread := ih houter hinner (show 3 * inner.length ≤ fuel by omega)
      obtain ⟨e, hclosed⟩ : ∃ e, closed (read (fuel + 3)) (.name (Text.normalize w)) inner =
          .error e := by
        rcases hread with ⟨e, he⟩ | ⟨t, hstar, ht⟩
        · exact ⟨e, bind_error (slices_error hindex he)⟩
        · exact ⟨⟨[], none⟩, by rw [closed, bind_ok (slices_ok hindex ht hend hstar)]; rfl⟩
      have hat : AtName (l :: b :: inner) := ⟨w, congrArg some hl, hw⟩
      exact .inl ⟨e, (read_passes _ hat).error (primary_bracket_error hl hw hb hclosed)⟩

end Nested

end Expression

section Text

open Reader Expression Scanner

variable {core : String} {outer : List String}

/-- Without the token that ends a text nothing counts as read. -/
theorem wholeExpression_cut {item : Reader Term} {ls : List Lexeme} {t : Term}
    (h : item ls = .ok (t, [])) : wholeExpression item ls = .error ⟨[], none⟩ := by
  rw [wholeExpression, bind_ok (commaList_of_ends h (ends_nil (k := 0)))]
  dsimp only
  rw [bind_ok (loop_stop (by rw [bind_ok (optional_of_ne (by simp [token?]))]; rfl))]
  rfl

section Source

variable {source : String} (hsource : source.toList = nestedText core outer)
  (hcore : isIdentifier core.toList = true ∧ isReserved core = false)
  (houter : ∀ w ∈ outer, isIdentifier w.toList = true ∧ isReserved w = false)
include hsource hcore houter

theorem readExpression?_brackets (hdepth : outer.length ≤ 200) :
    readExpression? source = some (nestedTerm core outer) := by
  have hidentifiers : ∀ w ∈ outer, isIdentifier w.toList = true := fun w hw => (houter w hw).1
  have hreserved : ∀ w ∈ outer, isReserved w = false := fun w hw => (houter w hw).2
  have hline := not_return_nestedText hcore.1 hidentifiers
  obtain ⟨c, cs, hcs, hc⟩ := exists_start_nestedText hcore.1 hidentifiers
  have hscans : Scans .start (nestedText core outer ++ []) .start [] (nestedTokens core outer) :=
    .nested hcore.1 hidentifiers (by simpa [start] using hdepth) rfl
  rw [List.append_nil, hcs] at hscans
  exact readExpression?_eq_some (hsource.trans hcs) hc (hsource ▸ hline) hscans (by decide)
    fun ls hls => nested_expression hcore.2 hreserved hls

theorem readExpression?_cut (hdepth : 200 < outer.length) : readExpression? source = none := by
  have hidentifiers : ∀ w ∈ outer, isIdentifier w.toList = true := fun w hw => (houter w hw).1
  have hreserved : ∀ w ∈ outer, isReserved w = false := fun w hw => (houter w hw).2
  have hline := not_return_nestedText hcore.1 hidentifiers
  obtain ⟨c, cs, hcs, hc⟩ := exists_start_nestedText hcore.1 hidentifiers
  obtain ⟨s, r, hscans, hstop⟩ : ∃ s r, Scans .start (nestedText core outer ++ []) s r
      (cutTokens core 0 outer) ∧ ∀ fuel, (Scanner.run (fuel + 1) false s r).lexemes = [] :=
    Scans.cut hidentifiers (by simp [start]) (by simpa [start] using hdepth)
  rw [List.append_nil, hcs] at hscans
  have htokens : (scan (c :: cs)).lexemes.map Lexeme.token = cutTokens core 0 outer ++ [] :=
    hscans.tokens_scan hc fun fuel => congrArg _ (hstop fuel)
  rw [List.append_nil] at htokens
  have hfuel : 3 * (scan (c :: cs)).lexemes.length ≤ 3 * source.length := by
    have hlength := hscans.length
    have hsame := congrArg List.length htokens
    have htext := congrArg List.length (hsource.trans hcs)
    rw [List.length_map] at hsame
    rw [String.length_toList] at htext
    omega
  rw [readExpression?_eq, hsource, unifyLineEnds_eq_self hline, hcs]
  rcases read_cut hcore.2 hreserved htokens hfuel with ⟨e, he⟩ | ⟨t, -, ht⟩
  · have hlist : commaList starts (read (3 * source.length + 3) .expression)
        (scan (c :: cs)).lexemes = .error e := bind_error he
    rw [wholeExpression, bind_error hlist]
  · rw [wholeExpression_cut ht]

/-- A name in the brackets of others is read as such, if there are at most 200 brackets; with more
it cannot be read. -/
theorem readExpression?_nested : readExpression? source =
    if outer.length ≤ 200 then some (nestedTerm core outer) else none := by
  split_ifs with hdepth
  · exact readExpression?_brackets hsource hcore houter hdepth
  · exact readExpression?_cut hsource hcore houter (not_le.mp hdepth)

end Source

end Text

end ViewModel.Source
