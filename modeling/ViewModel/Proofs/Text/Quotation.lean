import Mathlib.Algebra.Group.Nat.Defs
import ViewModel.Json.Reader
import ViewModel.Json.Writer
import ViewModel.Source.Literal
import ViewModel.Source.Scanner
import ViewModel.Text.Quoted

/-!
Quoted texts are read back. What the writer of JSON texts and the writer of quoted texts make of
a character, the reader of the same kind takes for that character, whatever follows.
-/

namespace ViewModel

namespace Text

section Hexadecimal

variable {width n : Nat} {c : Char}

theorem hexDigit?_digitChar : ∀ d < 16, hexDigit? (Nat.digitChar d) = some d := by decide

theorem digitValue_digitChar : ∀ d < 16, Source.digitValue (Nat.digitChar d) = d := by decide

theorem exists_of_mem_toDigits (h : c ∈ Nat.toDigits 16 n) : ∃ d < 16, c = Nat.digitChar d := by
  induction n using Nat.strongRecOn with
  | ind n ih =>
    rw [Nat.toDigits_eq_if (by decide)] at h
    split at h
    next hlt => exact ⟨n, hlt, by simpa using h⟩
    next hge =>
      rcases List.mem_append.mp h with hmem | hmem
      · exact ih (n / 16) (by omega) hmem
      · exact ⟨n % 16, by omega, by simpa using hmem⟩

theorem exists_of_mem_hex (h : c ∈ hex width n) : ∃ d < 16, c = Nat.digitChar d := by
  rcases List.mem_append.mp h with hzero | hdigit
  · exact ⟨0, by decide, (List.mem_replicate.mp hzero).2⟩
  · exact exists_of_mem_toDigits hdigit

theorem hexValue?_toDigits (n : Nat) : hexValue? (Nat.toDigits 16 n) = some n := by
  induction n using Nat.strongRecOn with
  | ind n ih =>
    rw [Nat.toDigits_eq_if (by decide)]
    split
    next hlt => simp [hexValue?, hexDigit?_digitChar n hlt]
    next hge =>
      have hrest := ih (n / 16) (by omega)
      have hlast := hexDigit?_digitChar (n % 16) (by omega)
      rw [hexValue?] at hrest ⊢
      rw [List.foldlM_append, hrest]
      simp [hlast]
      omega

theorem hexValue?_zeros (k : Nat) (ds : List Char) :
    hexValue? (List.replicate k '0' ++ ds) = hexValue? ds := by
  induction k with
  | zero => rfl
  | succ k ih => simpa [hexValue?, List.replicate_succ, hexDigit?] using ih

/-- Hexadecimal digits are read back, in texts of JSON and in quoted ones. -/
theorem hexValue?_hex (width n : Nat) : hexValue? (hex width n) = some n := by
  rw [hex, hexValue?_zeros, hexValue?_toDigits]

theorem digitsValue_hex (width n : Nat) : Source.digitsValue 16 (hex width n) = n := by
  have hsame : ∀ (cs : List Char) (k : Nat), (∀ c ∈ cs, ∃ d < 16, c = Nat.digitChar d) →
      cs.foldlM (fun n c => (hexDigit? c).map (16 * n + ·)) k =
        some (cs.foldl (fun n d => 16 * n + Source.digitValue d) k) := by
    intro cs
    induction cs with
    | nil => exact fun _ _ => rfl
    | cons c cs ih =>
      intro k h
      obtain ⟨d, hd, rfl⟩ := h c List.mem_cons_self
      simp [hexDigit?_digitChar d hd, digitValue_digitChar d hd,
        ih _ fun c hc => h c (List.mem_cons_of_mem _ hc)]
  have hvalue := hexValue?_hex width n
  rw [hexValue?, hsame _ _ fun c => exists_of_mem_hex] at hvalue
  exact Option.some.inj hvalue

theorem length_hex (hwidth : 0 < width) (hn : n < 16 ^ width) : (hex width n).length = width := by
  have hle := (Nat.length_toDigits_le_iff (by decide) hwidth).mpr hn
  rw [hex, List.length_append, List.length_replicate]
  omega

theorem character_toNat (c : Char) : character c.toNat = c := by
  have hvalid : c.toNat.isValidChar := c.valid
  rw [character, if_pos hvalid, Char.ofNat_toNat]

end Hexadecimal

end Text

namespace Json

variable {r : List Char} {n : Nat}

theorem codeUnit_hex (hn : n < 0x10000) (hr : r ≠ []) :
    codeUnit (Text.hex 4 n ++ r) = .ok (n, r) := by
  have hlength : (Text.hex 4 n).length = 4 := Text.length_hex (by decide) hn
  have hpos : 0 < r.length := List.length_pos_iff.mpr hr
  rw [codeUnit, if_neg (by rw [List.length_append]; omega), List.take_left' hlength,
    List.drop_left' hlength, Text.hexValue?_hex]

/-- One unit stands for a character of its own unless it is the first of a pair. -/
theorem codePoint_unit (hn : n < 0x10000) (hhigh : isHighSurrogate n = false) (hr : r ≠ []) :
    codePoint (Text.hex 4 n ++ r) = .ok (Text.character n, r) := by
  rw [codePoint, codeUnit_hex hn hr]
  simp only [bind, Except.bind, hhigh]
  split
  · simp
  · rfl

theorem codePoint_pair {high low : Nat} (hhigh : isHighSurrogate high = true)
    (hlow : isLowSurrogate low = true) (hr : r ≠ []) :
    codePoint (Text.hex 4 high ++ (unitEscape low ++ r)) =
      .ok (Text.character (0x10000 + (high - 0xD800) * 0x400 + (low - 0xDC00)), r) := by
  have hhigh' : high < 0x10000 := by
    simp only [isHighSurrogate, Bool.and_eq_true, decide_eq_true_eq] at hhigh
    omega
  have hlow' : low < 0x10000 := by
    simp only [isLowSurrogate, Bool.and_eq_true, decide_eq_true_eq] at hlow
    omega
  have hlength : (Text.hex 4 low).length = 4 := Text.length_hex (by decide) hlow'
  have hpos : 0 < r.length := List.length_pos_iff.mpr hr
  have henough : 5 ≤ (Text.hex 4 low ++ r).length := by rw [List.length_append]; omega
  rw [codePoint, codeUnit_hex hhigh' (by simp [unitEscape])]
  simp only [bind, Except.bind, unitEscape, List.cons_append, hhigh, henough, decide_true,
    Bool.and_self, if_true, List.take_left' hlength, List.drop_left' hlength, Text.hexValue?_hex,
    hlow]

theorem not_surrogate (c : Char) : isHighSurrogate c.toNat = false := by
  have hvalid : c.toNat < 0xD800 ∨ 0xDFFF < c.toNat ∧ c.toNat < 0x110000 := c.valid
  simp only [isHighSurrogate, Bool.and_eq_false_iff, decide_eq_false_iff_not]
  omega

/-- A character above the first plane is the pair that it is written as. -/
theorem codePoint_units (c : Char) (hlarge : ¬c.toNat < 0x10000) (hr : r ≠ []) :
    codePoint (Text.hex 4 (0xD800 + (c.toNat - 0x10000) / 0x400) ++
      (unitEscape (0xDC00 + (c.toNat - 0x10000) % 0x400) ++ r)) = .ok (c, r) := by
  have hvalid : c.toNat < 0xD800 ∨ 0xDFFF < c.toNat ∧ c.toNat < 0x110000 := c.valid
  have hhigh : isHighSurrogate (0xD800 + (c.toNat - 0x10000) / 0x400) = true := by
    simp only [isHighSurrogate, Bool.and_eq_true, decide_eq_true_eq]
    omega
  have hlow : isLowSurrogate (0xDC00 + (c.toNat - 0x10000) % 0x400) = true := by
    simp only [isLowSurrogate, Bool.and_eq_true, decide_eq_true_eq]
    omega
  rw [codePoint_pair hhigh hlow hr, Nat.add_sub_cancel_left, Nat.add_sub_cancel_left,
    show 0x10000 + (c.toNat - 0x10000) / 0x400 * 0x400 + (c.toNat - 0x10000) % 0x400 = c.toNat by
      omega, Text.character_toNat]

theorem stringBody_unit (opening fuel : Nat) (acc : List Char) (n : Nat) :
    stringBody opening (fuel + 1) acc (unitEscape n ++ r) =
      codePoint (Text.hex 4 n ++ r) >>= fun d => stringBody opening fuel (d.1 :: acc) d.2 := by
  simp [unitEscape, stringBody]

/-- One character of a string takes one step. -/
theorem stringBody_escape (opening fuel : Nat) (acc : List Char) (c : Char) (hr : r ≠ []) :
    stringBody opening (fuel + 1) acc (escape c ++ r) = stringBody opening fuel (c :: acc) r := by
  unfold escape
  split
  next heq => subst heq; rfl
  split
  next heq => subst heq; rfl
  split
  next heq => subst heq; rfl
  split
  next heq => subst heq; rfl
  split
  next heq => subst heq; rfl
  split
  next heq => subst heq; rfl
  split
  next heq => subst heq; rfl
  next hquote hbackslash _ _ _ _ _ =>
  split
  next hplain =>
    have hcontrol : ¬c.toNat < 0x20 := Nat.not_lt.mpr hplain.1
    simp [stringBody, hquote, hbackslash, hcontrol]
  split
  next hsmall =>
    rw [stringBody_unit, codePoint_unit hsmall (not_surrogate c) hr, Text.character_toNat]
    rfl
  next hlarge =>
    dsimp only
    rw [List.append_assoc, stringBody_unit, codePoint_units c hlarge hr]
    rfl

theorem stringBody_flatMap (opening : Nat) {fuel : Nat} (acc cs : List Char)
    (hfuel : cs.length < fuel) :
    stringBody opening fuel acc (cs.flatMap escape ++ ['"']) =
      .ok (String.ofList (acc.reverse ++ cs), []) := by
  induction cs generalizing fuel acc with
  | nil =>
    obtain ⟨fuel, rfl⟩ := Nat.exists_eq_add_of_lt hfuel
    simp [stringBody]
  | cons c cs ih =>
    obtain ⟨fuel, rfl⟩ := Nat.exists_eq_add_of_lt (Nat.zero_lt_of_lt hfuel)
    rw [List.flatMap_cons, List.append_assoc, stringBody_escape _ _ _ _ (by simp),
      ih (c :: acc) (by simp at hfuel; omega)]
    simp

theorem length_escape_pos (c : Char) : 0 < (escape c).length := by
  unfold escape
  grind [unitEscape]

/-- A quoted text is read back from after its opening quote. -/
theorem string_escape (cs : List Char) :
    string (cs.flatMap escape ++ ['"']) = .ok (String.ofList cs, []) := by
  have hlength : cs.length ≤ (cs.flatMap escape).length := by
    induction cs with
    | nil => exact Nat.le_refl _
    | cons c cs ih =>
      have hpos := length_escape_pos c
      rw [List.flatMap_cons, List.length_append, List.length_cons]
      omega
  rw [string, stringBody_flatMap]
  · rfl
  · rw [List.length_append]
    omega

end Json

namespace Source

open Text.Quoted (mark escape)

variable {quote : Char}

/-- The quote marks that texts stand between. -/
def IsMark (quote : Char) : Prop := quote = '\'' ∨ quote = '"'

theorem isMark_mark (cs : List Char) : IsMark (mark cs) := by
  unfold mark
  split
  · exact .inr rfl
  · exact .inl rfl

namespace IsMark

theorem ne_backslash (h : IsMark quote) : quote ≠ '\\' := by
  rcases h with rfl | rfl <;> decide

end IsMark

namespace Scanner

/-- Characters that neither end a body nor start an escape belong to it. -/
theorem shortBody?_append {cs : List Char} (r : List Char)
    (h : ∀ c ∈ cs, c ≠ '\\' ∧ c ≠ quote ∧ c ≠ '\n') :
    shortBody? quote (cs ++ r) = (shortBody? quote r).map fun b => (cs ++ b.1, b.2) := by
  induction cs with
  | nil => simp
  | cons c cs ih =>
    obtain ⟨hbackslash, hquote, hline⟩ := h c List.mem_cons_self
    have hcs := ih fun c hc => h c (List.mem_cons_of_mem _ hc)
    rw [List.cons_append, shortBody?]
    · simp [hquote, hline, hcs, Function.comp_def]
    · simp [hbackslash]

theorem shortBody?_escaped (c : Char) {cs : List Char} (r : List Char)
    (h : ∀ c ∈ cs, c ≠ '\\' ∧ c ≠ quote ∧ c ≠ '\n') :
    shortBody? quote ('\\' :: c :: cs ++ r) =
      (shortBody? quote r).map fun b => ('\\' :: c :: cs ++ b.1, b.2) := by
  simp [shortBody?, shortBody?_append r h, Function.comp_def]

/-- Hexadecimal digits neither end a body nor start an escape. -/
theorem plain_of_mem_hex (hquote : IsMark quote) {width n : Nat} :
    ∀ c ∈ Text.hex width n, c ≠ '\\' ∧ c ≠ quote ∧ c ≠ '\n' := by
  have hall : ∀ d < 16, Nat.digitChar d ≠ '\\' ∧ Nat.digitChar d ≠ '\'' ∧
      Nat.digitChar d ≠ '"' ∧ Nat.digitChar d ≠ '\n' := by decide
  intro c hc
  obtain ⟨d, hd, rfl⟩ := Text.exists_of_mem_hex hc
  obtain ⟨hbackslash, hsingle, hdouble, hline⟩ := hall d hd
  rcases hquote with rfl | rfl
  · exact ⟨hbackslash, hsingle, hline⟩
  · exact ⟨hbackslash, hdouble, hline⟩

/-- What is written for a character is no end of the body. -/
theorem shortBody?_escape (hquote : IsMark quote) (c : Char) (r : List Char) :
    shortBody? quote (escape quote c ++ r) =
      (shortBody? quote r).map fun b => (escape quote c ++ b.1, b.2) := by
  unfold escape
  split
  · exact shortBody?_escaped c r (by simp)
  next hspecial =>
  split
  · exact shortBody?_escaped 'n' r (by simp)
  next hline =>
  split
  · exact shortBody?_escaped 'r' r (by simp)
  split
  · exact shortBody?_escaped 't' r (by simp)
  split
  · exact shortBody?_append r (by simp_all)
  split
  · exact shortBody?_escaped 'x' r (plain_of_mem_hex hquote)
  split
  · exact shortBody?_escaped 'u' r (plain_of_mem_hex hquote)
  · exact shortBody?_escaped 'U' r (plain_of_mem_hex hquote)

/-- Nor is what is written for a character in a text of JSON. -/
theorem shortBody?_jsonEscape (c : Char) (r : List Char) :
    shortBody? '"' (Json.escape c ++ r) =
      (shortBody? '"' r).map fun b => (Json.escape c ++ b.1, b.2) := by
  have hunit (n : Nat) (r : List Char) : shortBody? '"' (Json.unitEscape n ++ r) =
      (shortBody? '"' r).map fun b => (Json.unitEscape n ++ b.1, b.2) :=
    shortBody?_escaped 'u' r (plain_of_mem_hex (.inr rfl))
  unfold Json.escape
  split
  · exact shortBody?_escaped '"' r (by simp)
  next hquote =>
  split
  · exact shortBody?_escaped '\\' r (by simp)
  next hbackslash =>
  split
  · exact shortBody?_escaped 'n' r (by simp)
  next hline =>
  split
  · exact shortBody?_escaped 'r' r (by simp)
  split
  · exact shortBody?_escaped 't' r (by simp)
  split
  · exact shortBody?_escaped 'f' r (by simp)
  split
  · exact shortBody?_escaped 'b' r (by simp)
  split
  · exact shortBody?_append r (by simp [hquote, hbackslash, hline])
  split
  · exact hunit _ r
  · dsimp only
    rw [List.append_assoc, hunit, hunit, Option.map_map]
    simp [Function.comp_def]

/-- Where nothing that is written for a character ends the body, all of it is read. -/
theorem shortBody?_flatMap {escape : Char → List Char} (hquote : IsMark quote)
    (hescape : ∀ c r, shortBody? quote (escape c ++ r) =
      (shortBody? quote r).map fun b => (escape c ++ b.1, b.2)) (cs r : List Char) :
    shortBody? quote (cs.flatMap escape ++ quote :: r) = some (cs.flatMap escape, r) := by
  induction cs with
  | nil =>
    have hne := hquote.ne_backslash
    rw [List.flatMap_nil, List.nil_append, shortBody?]
    · simp
    · simp [hne]
  | cons c cs ih => rw [List.flatMap_cons, List.append_assoc, hescape, ih]; rfl

end Scanner

namespace Literal

theorem hexEscape?_hex {width n : Nat} (hwidth : 0 < width) (hn : n < 16 ^ width)
    (hvalid : n < 0x110000) (r : List Char) :
    hexEscape? width (Text.hex width n ++ r) = some ([Char.ofNat n], width) := by
  have hlength := Text.length_hex hwidth hn
  have hall : (Text.hex width n).all isHex = true := by
    have hdigit : ∀ d < 16, isHex (Nat.digitChar d) = true := by decide
    rw [List.all_eq_true]
    intro c hc
    obtain ⟨d, hd, rfl⟩ := Text.exists_of_mem_hex hc
    exact hdigit d hd
  simp [hexEscape?, List.take_left' hlength, hlength, hall, Text.digitsValue_hex, hvalid]

theorem unescape?_hexEscape {width : Nat} {letter c : Char} (hwidth : 0 < width)
    (hletter : ∀ rest, escape? letter rest = hexEscape? width rest) (hc : c.toNat < 16 ^ width)
    (r : List Char) :
    unescape? ('\\' :: letter :: Text.hex width c.toNat ++ r) = (unescape? r).map (c :: ·) := by
  have hvalid : c.toNat < 0xD800 ∨ 0xDFFF < c.toNat ∧ c.toNat < 0x110000 := c.valid
  have hlength := Text.length_hex hwidth hc
  rw [List.cons_append, List.cons_append, unescape?, hletter,
    hexEscape?_hex hwidth hc (by omega), Char.ofNat_toNat]
  simp [List.drop_left' hlength]

/-- What is written for a character stands for it. -/
theorem unescape?_escape (hquote : IsMark quote) (c : Char) (r : List Char) :
    unescape? (escape quote c ++ r) = (unescape? r).map (c :: ·) := by
  have hvalid : c.toNat < 0xD800 ∨ 0xDFFF < c.toNat ∧ c.toNat < 0x110000 := c.valid
  unfold escape
  split
  next hspecial =>
    have hescape : escape? c r = some ([c], 0) := by
      rcases hspecial with rfl | rfl
      · rcases hquote with rfl | rfl <;> rfl
      · rfl
    rw [List.cons_append, List.cons_append, unescape?, List.nil_append, hescape]
    simp
  next hspecial =>
  split
  next heq => subst heq; rw [List.cons_append, List.cons_append, unescape?]; rfl
  split
  next heq => subst heq; rw [List.cons_append, List.cons_append, unescape?]; rfl
  split
  next heq => subst heq; rw [List.cons_append, List.cons_append, unescape?]; rfl
  split
  next hprintable =>
    rw [List.singleton_append, unescape?]
    simp_all
  split
  next hsmall => exact unescape?_hexEscape (by decide) (fun _ => rfl) hsmall r
  split
  next hmiddle => exact unescape?_hexEscape (by decide) (fun _ => rfl) hmiddle r
  next hlarge => exact unescape?_hexEscape (by decide) (fun _ => rfl) (by omega) r

theorem unescape?_flatMap (hquote : IsMark quote) (cs : List Char) :
    unescape? (cs.flatMap (escape quote)) = some cs := by
  induction cs with
  | nil => simp [unescape?]
  | cons c cs ih => rw [List.flatMap_cons, unescape?_escape hquote, ih]; rfl

end Literal

/-- A character is written as itself, which is not the mark then, or after a backslash. -/
theorem escape_cases (quote c : Char) :
    (∃ ds, escape quote c = '\\' :: ds) ∨ escape quote c = [c] ∧ c ≠ quote := by
  unfold escape
  grind

/-- Hexadecimal digits show as themselves. -/
theorem isPrintable_of_mem_hex {width n : Nat} {d : Char} (hd : d ∈ Text.hex width n) :
    Text.isPrintable d = true := by
  have hall : ∀ d < 16, Text.isPrintable (Nat.digitChar d) = true := by decide
  obtain ⟨d, hlow, rfl⟩ := Text.exists_of_mem_hex hd
  exact hall d hlow

theorem IsMark.isPrintable (h : IsMark quote) : Text.isPrintable quote = true := by
  rcases h with rfl | rfl <;> decide

/-- What is written for a character shows as itself. -/
theorem isPrintable_of_mem_escape (hquote : IsMark quote) (c : Char) :
    ∀ d ∈ escape quote c, Text.isPrintable d = true := by
  have escaped {letter : Char} {ds : List Char} (hletter : Text.isPrintable letter = true)
      (hds : ∀ d ∈ ds, Text.isPrintable d = true) :
      ∀ d ∈ '\\' :: letter :: ds, Text.isPrintable d = true :=
    List.forall_mem_cons.mpr ⟨by decide, List.forall_mem_cons.mpr ⟨hletter, hds⟩⟩
  unfold escape
  split
  next hspecial =>
    refine escaped ?_ (by simp)
    rcases hspecial with rfl | rfl
    · exact hquote.isPrintable
    · decide
  split
  · exact escaped (by decide) (by simp)
  split
  · exact escaped (by decide) (by simp)
  split
  · exact escaped (by decide) (by simp)
  split
  next hprintable => simpa using hprintable
  split
  · exact escaped (by decide) fun _ => isPrintable_of_mem_hex
  split
  · exact escaped (by decide) fun _ => isPrintable_of_mem_hex
  · exact escaped (by decide) fun _ => isPrintable_of_mem_hex

/-- All of a quoted text shows as itself. -/
theorem isPrintable_of_mem_encode (cs : List Char) :
    ∀ d ∈ Text.Quoted.encode cs, Text.isPrintable d = true := by
  have hquote := isMark_mark cs
  rw [Text.Quoted.encode, List.cons_append, List.forall_mem_cons, List.forall_mem_append,
    List.forall_mem_singleton]
  refine ⟨hquote.isPrintable, fun d hd => ?_, hquote.isPrintable⟩
  obtain ⟨c, -, hd⟩ := List.mem_flatMap.mp hd
  exact isPrintable_of_mem_escape hquote c d hd

/-- A line end is written as an escape, so a quoted text is on one line. -/
theorem newline_not_mem_quoted (s : String) : '\n' ∉ (Text.quoted s).toList := by
  intro hmem
  rw [Text.quoted, String.toList_ofList] at hmem
  exact absurd (isPrintable_of_mem_encode _ _ hmem) (by decide)

/-- The body of a quoted text does not start with its mark, so the mark is a single one. -/
theorem head?_flatMap (hquote : IsMark quote) (cs : List Char) :
    (cs.flatMap (escape quote)).head? ≠ some quote := by
  cases cs with
  | nil => simp
  | cons c cs =>
    have hne := hquote.ne_backslash.symm
    rcases escape_cases quote c with ⟨ds, hcons⟩ | ⟨hself, hc⟩
    · simp [hcons, hne]
    · simp [hself, hc]

theorem quoteStart?_encode (cs r : List Char) :
    Scanner.quoteStart? (Text.Quoted.encode cs ++ r) = some 0 := by
  rcases isMark_mark cs with hmark | hmark <;>
    simp [Text.Quoted.encode, hmark, Scanner.quoteStart?, Scanner.quotePrefixes,
      Scanner.isQuoteMark]

/-- A quoted text is one literal where its mark does not follow. -/
theorem quote?_encode (cs : List Char) {r : List Char} (hr : r.head? ≠ some (mark cs)) :
    Scanner.quote? 0 (Text.Quoted.encode cs ++ r) =
      some (⟨false, false, false, cs.flatMap (escape (mark cs))⟩, r) := by
  have hquote := isMark_mark cs
  have hhead := head?_flatMap hquote cs
  have hsingle : (cs.flatMap (escape (mark cs)) ++ mark cs :: r).take 2 ≠ [mark cs, mark cs] := by
    intro heq
    cases hbody : cs.flatMap (escape (mark cs)) with
    | nil =>
      rw [hbody, List.nil_append] at heq
      cases r with
      | nil => simp at heq
      | cons d r => exact hr (by simpa using heq)
    | cons b body =>
      rw [hbody, List.head?_cons] at hhead
      rw [hbody, List.cons_append, List.take_succ_cons] at heq
      exact hhead (congrArg some (List.cons.inj heq).1)
  rw [Scanner.quote?, Text.Quoted.encode]
  simp only [List.drop_zero, List.take_zero, List.map_nil, List.cons_append, List.append_assoc,
    List.nil_append, Scanner.quoteBody?]
  rw [if_neg hsingle, Scanner.shortBody?_flatMap hquote (Scanner.shortBody?_escape hquote)]
  rfl

/-- A quoted text stands for the text that it quotes. -/
theorem text?_encode (cs : List Char) :
    Literal.text? ⟨false, false, false, cs.flatMap (escape (mark cs))⟩ = some cs :=
  Literal.unescape?_flatMap (isMark_mark cs) cs

end Source

end ViewModel
