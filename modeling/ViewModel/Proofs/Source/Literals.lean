import ViewModel.Proofs.Number.Numeral
import ViewModel.Proofs.Source.Scanning
import ViewModel.Proofs.Text.Quotation

/-!
Scanning literals. A numeral and a quoted text are one token each, whatever follows them, and the
token has the constant that they denote.
-/

namespace ViewModel

/-- A constant as the language has it. -/
def Scalar.constant : Scalar → Source.Constant
  | null => .none
  | bool b => .bool b
  | int n => .int n
  | float x => .float x
  | text s => .text s

namespace Source

section Numerals

variable {ds cs r : List Char} {n : Numeral}

/-- No numeral goes on here. -/
def EndsNumeral (r : List Char) : Prop := ∀ c ∈ r.head?, isWordPart c = false ∧ c ≠ '.'

/-- Neither a digit nor an underscore stands here. -/
def EndsRun (r : List Char) : Prop := ∀ c ∈ r.head?, c.isDigit = false ∧ c ≠ '_'

theorem EndsNumeral.endsRun (h : EndsNumeral r) : EndsRun r := by
  intro c hc
  obtain ⟨hpart, -⟩ := h c hc
  constructor
  · refine Bool.eq_false_iff.mpr fun hdigit => ?_
    rw [isWordPart_of_isDigit hdigit] at hpart
    cases hpart
  · rintro rfl
    cases hpart

theorem digitRun?_append (hds : ∀ c ∈ ds, c.isDigit = true) (hr : EndsRun r) :
    digitRun? Char.isDigit (ds ++ r) = some (ds, r) := by
  induction ds with
  | nil =>
    cases r with
    | nil => rfl
    | cons c r =>
      obtain ⟨hdigit, hunderscore⟩ := hr c rfl
      rw [List.nil_append, digitRun?] <;> simp_all
  | cons d ds ih =>
    obtain ⟨hd, hds⟩ := List.forall_mem_cons.mp hds
    have hunderscore : d ≠ '_' := by
      rintro rfl
      cases hd
    rw [List.cons_append, digitRun?] <;> simp_all

theorem plainRun?_append (hne : ds ≠ []) (hds : ∀ c ∈ ds, c.isDigit = true) (hr : EndsRun r) :
    plainRun? (ds ++ r) = some (ds, r) := by
  obtain ⟨d, ds, rfl⟩ := List.exists_cons_of_ne_nil hne
  have hrun := digitRun?_append hds hr
  rw [List.cons_append] at hrun ⊢
  rw [plainRun?, hds d List.mem_cons_self, if_pos rfl, hrun]

theorem exponent?_text {exponent : Option (Bool × List Char)}
    (h : ∀ e, exponent = some e → e.2 ≠ [] ∧ ∀ c ∈ e.2, c.isDigit = true) (hr : EndsNumeral r) :
    exponent? (Numeral.exponentText exponent ++ r) = some (Numeral.power exponent, r) := by
  rcases exponent with _ | ⟨negative, ds⟩
  · show exponent? r = some (none, r)
    unfold exponent?
    split
    · exact absurd (hr 'e' rfl).1 (by decide)
    · exact absurd (hr 'E' rfl).1 (by decide)
    · rfl
  · obtain ⟨hne, hds⟩ : ds ≠ [] ∧ ∀ c ∈ ds, c.isDigit = true := h _ rfl
    have hrun := plainRun?_append hne hds hr.endsRun
    obtain ⟨d, ds, rfl⟩ := List.exists_cons_of_ne_nil hne
    rw [List.cons_append] at hrun
    cases negative <;> simp [Numeral.exponentText, exponent?, hrun, Numeral.power]

theorem endsNumber_of_endsNumeral (hr : EndsNumeral r) : endsNumber r = true := by
  cases r with
  | nil => rfl
  | cons c r =>
    have hpart := (hr c rfl).1
    simp only [isWordPart, Bool.or_eq_false_iff] at hpart
    simp [endsNumber, hpart]

theorem endsRun_exponentText (exponent : Option (Bool × List Char)) (hr : EndsNumeral r) :
    EndsRun (Numeral.exponentText exponent ++ r) := by
  rcases exponent with _ | ⟨negative, ds⟩
  · exact hr.endsRun
  · rintro _ ⟨⟩
    decide

/-- A point, if one stands here, and the digits after it. -/
def fractionPart? : List Char → Option (Bool × List Char × List Char)
  | '.' :: r => (plainRun? r).map fun d => (true, d.1, d.2)
  | r => some (false, [], r)

/-- The number that the parts of a decimal numeral make. -/
def decimalOf? (whole : List Char) (point : Bool) (fraction : List Char) (exponent : Option Int)
    (r : List Char) : Option (Token × List Char) :=
  match r with
  | 'j' :: r | 'J' :: r => if endsNumber r then some (.number .imaginary, r) else none
  | _ =>
      if !endsNumber r then none
      else if point || exponent.isSome then
        some (.number (.float (Double.ofDecimal false (Nat.ofDigitChars 10 (whole ++ fraction) 0)
          (exponent.getD 0 - fraction.length))), r)
      else if whole.head? = some '0' ∧ whole.any (· ≠ '0') then none
      else if 4300 < whole.length then some (.overlong, r)
      else some (.number (.int (Nat.ofDigitChars 10 whole 0)), r)

theorem fractionPart?_of_ne (h : r.head? ≠ some '.') : fractionPart? r = some (false, [], r) := by
  unfold fractionPart?
  split
  · exact absurd rfl h
  · rfl

theorem decimal?_eq (cs : List Char) : decimal? cs =
    (plainRun? cs).bind fun w => (fractionPart? w.2).bind fun f => (exponent? f.2.2).bind fun e =>
      decimalOf? w.1 f.1 f.2.1 e.1 e.2 := by
  rw [decimal?]
  cases plainRun? cs with
  | none => rfl
  | some w =>
    obtain ⟨whole, r⟩ := w
    simp only [Option.bind_eq_bind, Option.bind_some]
    split
    next r => cases h : plainRun? r <;> simp only [fractionPart?, h] <;> rfl
    next hpoint =>
      have hnone : r.head? ≠ some '.' := by
        intro h
        obtain ⟨rest, heq⟩ := List.head?_eq_some_iff.mp h
        exact hpoint rest heq
      rw [fractionPart?_of_ne hnone]
      rfl

theorem fractionPart?_text (hds : ∀ c ∈ ds, c.isDigit = true) (hr : EndsRun r)
    (hpoint : r.head? ≠ some '.') :
    fractionPart? (Numeral.fractionText ds ++ r) = some (!ds.isEmpty, ds, r) := by
  cases ds with
  | nil => exact fractionPart?_of_ne hpoint
  | cons d ds =>
    have hrun := plainRun?_append (by simp) hds hr
    rw [List.cons_append] at hrun
    simp [Numeral.fractionText, fractionPart?, hrun]

theorem decimalOf?_denoted (h : n.WellFormed)
    (hdigits : n.fraction = [] → n.exponent = none → n.whole.length ≤ 4300)
    (hr : EndsNumeral r) :
    decimalOf? n.whole (!n.fraction.isEmpty) n.fraction (Numeral.power n.exponent) r =
      some (.number (n.denoted false).constant, r) := by
  have hplain : ¬(n.whole.head? = some '0' ∧ n.whole.any (· ≠ '0') = true) := by
    rcases h.whole with hzero | ⟨-, hhead⟩
    · simp [hzero]
    · simp [hhead]
  unfold decimalOf?
  split
  · exact absurd (hr 'j' rfl).1 (by decide)
  · exact absurd (hr 'J' rfl).1 (by decide)
  · rw [endsNumber_of_endsNumeral hr, if_neg (by decide), if_neg hplain]
    rw [Numeral.denoted]
    by_cases hwhole : n.fraction.isEmpty ∧ n.exponent.isNone
    · have hlow := hdigits (List.isEmpty_iff.mp hwhole.1) (Option.isNone_iff_eq_none.mp hwhole.2)
      rw [if_pos hwhole, if_neg (by simp [Numeral.power, hwhole]), if_neg (by omega)]
      rfl
    · rw [if_neg hwhole, if_pos]
      · rfl
      · rw [Numeral.power, Option.isSome_map]
        cases hfraction : n.fraction.isEmpty <;> cases hexponent : n.exponent <;> simp_all

/-- A numeral is read as the constant that it denotes. A whole one may have as many digits as are
read. -/
theorem decimal?_text (h : n.WellFormed)
    (hdigits : n.fraction = [] → n.exponent = none → n.whole.length ≤ 4300)
    (hr : EndsNumeral r) :
    decimal? (n.text ++ r) = some (.number (n.denoted false).constant, r) := by
  have hends := endsRun_exponentText n.exponent hr
  have hpoint : (Numeral.exponentText n.exponent ++ r).head? ≠ some '.' := by
    cases n.exponent with
    | none => exact fun hpoint => (hr '.' hpoint).2 rfl
    | some e => simp [Numeral.exponentText]
  have hwhole : plainRun? (n.text ++ r) = some (n.whole,
      Numeral.fractionText n.fraction ++ (Numeral.exponentText n.exponent ++ r)) := by
    obtain ⟨d, ds, hcons⟩ := h.exists_cons
    rw [Numeral.text, List.append_assoc, List.append_assoc]
    refine plainRun?_append (by simp [hcons]) h.wholeDigits ?_
    unfold Numeral.fractionText
    split
    · exact hends
    · rintro _ ⟨⟩
      decide
  rw [decimal?_eq, hwhole, Option.bind_some, fractionPart?_text h.fractionDigits hends hpoint,
    Option.bind_some, exponent?_text h.exponent hr, Option.bind_some]
  exact decimalOf?_denoted h hdigits hr

/-- A letter of another base is no part of what comes after a first digit. -/
theorem numeral?_eq_decimal? (h : cs.head? = some '0' →
    ∀ c ∈ cs.tail.head?, c ∉ ['x', 'X', 'o', 'O', 'b', 'B']) : numeral? cs = decimal? cs := by
  unfold numeral?
  split <;> first | rfl | exact absurd (by simp) (h rfl _ rfl)

theorem numeral?_text (h : n.WellFormed)
    (hdigits : n.fraction = [] → n.exponent = none → n.whole.length ≤ 4300)
    (hr : EndsNumeral r) :
    numeral? (n.text ++ r) = some (.number (n.denoted false).constant, r) := by
  rw [← decimal?_text h hdigits hr]
  refine numeral?_eq_decimal? fun hzero c hc => ?_
  have hwhole : n.whole = ['0'] := by
    refine h.whole.resolve_right fun hother => hother.2 ?_
    obtain ⟨d, ds, hcons⟩ := h.exists_cons
    simpa [Numeral.text, hcons] using hzero
  have hrest : ∀ c ∈ (Numeral.fractionText n.fraction ++
      (Numeral.exponentText n.exponent ++ r)).head?, c = '.' ∨ c = 'e' ∨ isWordPart c = false := by
    unfold Numeral.fractionText
    split
    · cases n.exponent with
      | none => exact fun c hc => .inr (.inr (hr c hc).1)
      | some e => simp [Numeral.exponentText]
    · simp
  rw [Numeral.text, hwhole, List.append_assoc, List.append_assoc, List.singleton_append,
    List.tail_cons] at hc
  rcases hrest c hc with rfl | rfl | hpart
  · decide
  · decide
  · have hparts : ∀ c ∈ ['x', 'X', 'o', 'O', 'b', 'B'], isWordPart c = true :=
      List.all_iff_forall_prop.mp (by decide)
    intro hmem
    rw [hparts c hmem] at hpart
    cases hpart

end Numerals

namespace Scanner

variable {s : Scanner} {r : List Char} {n : Numeral}

/-- A numeral is one token. -/
theorem Scans.numeral (h : n.WellFormed)
    (hdigits : n.fraction = [] → n.exponent = none → n.whole.length ≤ 4300)
    (hr : EndsNumeral r) : Scans s (n.text ++ r) s r [.number (n.denoted false).constant] := by
  obtain ⟨d, ds, hcons⟩ := h.exists_cons
  have hd := h.wholeDigits d (by simp [hcons])
  have htext : n.text = d :: (ds ++ (Numeral.fractionText n.fraction ++
      Numeral.exponentText n.exponent)) := by simp [Numeral.text, hcons]
  have hspecial : d ∉ special := not_special_of_isWordPart (isWordPart_of_isDigit hd)
  have hnumeral := numeral?_text h hdigits hr
  rw [htext, List.cons_append] at hnumeral
  exact Scans.token htext hspecial (htext ▸ token_number hd hnumeral)

/-- A quoted text is one token where no quote mark follows. -/
theorem Scans.quoted (cs : List Char) (hr : ∀ c ∈ r.head?, isQuoteMark c = false) :
    Scans s (Text.Quoted.encode cs ++ r) s r
      [.quote ⟨false, false, false, cs.flatMap (Text.Quoted.escape (Text.Quoted.mark cs))⟩] := by
  have hmark := isMark_mark cs
  have hquote : isQuoteMark (Text.Quoted.mark cs) = true := by
    rcases hmark with h | h <;> rw [h] <;> rfl
  have hspecial : Text.Quoted.mark cs ∉ special := by
    rcases hmark with h | h <;> rw [h] <;> decide
  have hnext : r.head? ≠ some (Text.Quoted.mark cs) := fun h => by
    have hno := hr _ h
    rw [hquote] at hno
    cases hno
  -- a line end is written as an escape, so the text is on the line that it starts on
  have hlines : Text.newlines (Text.Quoted.encode cs) = 0 := by
    refine List.count_eq_zero.mpr fun h => ?_
    exact absurd (isPrintable_of_mem_encode cs _ h) (by decide)
  have hstart := quoteStart?_encode cs r
  have hbody := quote?_encode cs hnext
  refine Scans.token (by rw [Text.Quoted.encode, List.cons_append]) hspecial ?_
  have htake : (Text.Quoted.encode cs ++ r).take
      ((Text.Quoted.encode cs ++ r).length - r.length) = Text.Quoted.encode cs := by
    rw [List.length_append, Nat.add_sub_cancel, List.take_left]
  have hcons : Text.Quoted.encode cs ++ r = Text.Quoted.mark cs ::
      (cs.flatMap (Text.Quoted.escape (Text.Quoted.mark cs)) ++ [Text.Quoted.mark cs] ++ r) := by
    simp [Text.Quoted.encode]
  rw [hcons] at hstart hbody htake ⊢
  simp only [Scanner.token, hstart, hbody, htake, hlines, Nat.add_zero]

end Scanner

end Source

end ViewModel
