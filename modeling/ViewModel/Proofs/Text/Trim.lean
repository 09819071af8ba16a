import Mathlib.Data.List.Basic
import Mathlib.Data.List.TakeWhile
import ViewModel.Text.Alphanumeric
import ViewModel.Text.Blank

/-!
White space at the ends of a text. A text falls in exactly one way into white space, a part that
has none at its ends, and white space again; characters of words are no white space.
-/

namespace ViewModel.Text

/-- The code points of some ranges. -/
def codePoints (ranges : List (Nat × Nat)) : List Nat :=
  ranges.flatMap fun r => List.range' r.1 (r.2 + 1 - r.1)

theorem mem_codePoints {ranges : List (Nat × Nat)} {n : Nat} (h : inRanges ranges n = true) :
    n ∈ codePoints ranges := by
  induction ranges with
  | nil => cases h
  | cons r rest ih =>
    obtain ⟨low, high⟩ := r
    rw [inRanges] at h
    split at h
    · cases h
    next hlow =>
      rw [codePoints, List.flatMap_cons, List.mem_append]
      rcases Bool.or_eq_true_iff.mp h with hhigh | hrest
      · have hhigh : n ≤ high := of_decide_eq_true hhigh
        exact .inl (List.mem_range'_1.mpr ⟨by omega, by omega⟩)
      · exact .inr (ih hrest)

theorem isWord_of_isAlpha {c : Char} (h : c.isAlpha = true) : isWord c = true := by
  have hletters : ∀ n ∈ List.range' 65 26 ++ List.range' 97 26,
      inRanges alphanumericRanges n = true := by decide +kernel
  have hcode : c.toNat ∈ List.range' 65 26 ++ List.range' 97 26 := by
    rw [List.mem_append, List.mem_range'_1, List.mem_range'_1]
    rcases Bool.or_eq_true_iff.mp h with hupper | hlower
    · obtain ⟨hlow, hhigh⟩ := of_decide_eq_true hupper
      exact .inl ⟨hlow, Nat.lt_succ_of_le hhigh⟩
    · obtain ⟨hlow, hhigh⟩ := Bool.and_eq_true_iff.mp hlower
      exact .inr ⟨of_decide_eq_true hlow, Nat.lt_succ_of_le (of_decide_eq_true hhigh)⟩
  exact Bool.or_eq_true_iff.mpr (.inl (hletters _ hcode))

theorem isBlank_of_isWord {c : Char} (h : isWord c = true) : isBlank c = false := by
  have hranges : ∀ n ∈ codePoints blankRanges, inRanges alphanumericRanges n = false ∧ n ≠ 95 := by
    decide +kernel
  by_contra hblank
  have hblank : inRanges blankRanges c.toNat = true := eq_true_of_ne_false hblank
  obtain ⟨halphanumeric, hunderscore⟩ := hranges _ (mem_codePoints hblank)
  rcases Bool.or_eq_true_iff.mp h with hword | hword
  · exact Bool.false_ne_true (halphanumeric.symm.trans hword)
  · obtain rfl : c = '_' := eq_of_beq hword
    exact hunderscore rfl

/-- White space and nothing else. -/
def Blank (cs : List Char) : Prop := ∀ c ∈ cs, isBlank c = true

/-- A text without white space at its ends. -/
structure Trimmed (cs : List Char) : Prop where
  head : ∀ c ∈ cs.head?, isBlank c = false
  last : ∀ c ∈ cs.getLast?, isBlank c = false

variable {lead lead' cs ds rest rest' trail : List Char}

theorem Trimmed.of_solid (h : ∀ c ∈ cs, isBlank c = false) : Trimmed cs :=
  ⟨fun c hc => h c (List.mem_of_mem_head? hc), fun c hc => h c (List.mem_of_mem_getLast? hc)⟩

theorem solid_head (hne : cs ≠ []) (hcs : ∀ c ∈ cs, isBlank c = false) (trail : List Char) :
    ∀ c ∈ (cs ++ trail).head?, isBlank c = false := by
  intro c hc
  rw [List.head?_append_of_ne_nil _ hne] at hc
  exact hcs c (List.mem_of_mem_head? hc)

theorem mark_head {c : Char} (hc : isBlank c = false) (rest : List Char) :
    ∀ d ∈ (c :: rest).head?, isBlank d = false := by
  intro d hd
  obtain rfl : c = d := Option.some.inj hd
  exact hc

/-- A word may close what starts with no white space. -/
theorem Trimmed.cons_append {c : Char} (hc : isBlank c = false) (hne : ds ≠ [])
    (hds : ∀ c ∈ ds, isBlank c = false) : Trimmed (c :: (cs ++ ds)) := by
  refine ⟨mark_head hc _, fun d hd => ?_⟩
  rw [← List.cons_append, List.getLast?_append_of_ne_nil _ hne] at hd
  exact hds d (List.mem_of_mem_getLast? hd)

theorem trimStart_of_head (h : ∀ c ∈ cs.head?, isBlank c = false) : trimStart cs = cs := by
  cases cs with
  | nil => rfl
  | cons c cs => exact List.dropWhile_cons_of_neg (Bool.eq_false_iff.mp (h c rfl))

theorem trimStart_append (hlead : Blank lead) : trimStart (lead ++ cs) = trimStart cs :=
  List.dropWhile_append_of_pos hlead

theorem trimEnd_append (htrail : Blank trail) : trimEnd (cs ++ trail) = trimEnd cs := by
  have hreverse : ∀ c ∈ trail.reverse, isBlank c = true := fun c hc =>
    htrail c (List.mem_reverse.mp hc)
  rw [trimEnd, List.reverse_append, List.dropWhile_append_of_pos hreverse]
  rfl

theorem trimEnd_of_last (h : ∀ c ∈ cs.getLast?, isBlank c = false) : trimEnd cs = cs := by
  have hhead : ∀ c ∈ cs.reverse.head?, isBlank c = false := by simpa using h
  have hreverse : cs.reverse.dropWhile isBlank = cs.reverse := trimStart_of_head hhead
  rw [trimEnd, hreverse, List.reverse_reverse]

theorem exists_trimStart (cs : List Char) :
    (∃ lead, Blank lead ∧ cs = lead ++ trimStart cs) ∧
      ∀ c ∈ (trimStart cs).head?, isBlank c = false := by
  refine ⟨⟨cs.takeWhile isBlank, fun c hc => List.mem_takeWhile_imp hc,
    List.takeWhile_append_dropWhile.symm⟩, fun c hc => ?_⟩
  have hhead := List.head?_dropWhile_not isBlank cs
  rw [trimStart, Option.mem_def] at hc
  rwa [hc] at hhead

theorem exists_trimEnd (cs : List Char) :
    (∃ trail, Blank trail ∧ cs = trimEnd cs ++ trail) ∧
      ∀ c ∈ (trimEnd cs).getLast?, isBlank c = false := by
  obtain ⟨⟨lead, hlead, hcs⟩, hhead⟩ := exists_trimStart cs.reverse
  constructor
  · refine ⟨lead.reverse, fun c hc => hlead c (List.mem_reverse.mp hc), ?_⟩
    rw [trimEnd, ← List.reverse_append]
    exact List.reverse_eq_iff.mp hcs
  · rw [trimEnd, List.getLast?_reverse]
    exact hhead

/-- What is left of a text without the white space at its ends. -/
theorem trim_eq_iff : trim cs = ds ↔
    Trimmed ds ∧ ∃ lead trail, Blank lead ∧ Blank trail ∧ cs = lead ++ (ds ++ trail) := by
  constructor
  · rintro rfl
    obtain ⟨⟨lead, hlead, hcs⟩, hhead⟩ := exists_trimStart cs
    obtain ⟨⟨trail, htrail, hstart⟩, hlast⟩ := exists_trimEnd (trimStart cs)
    refine ⟨⟨fun c hc => hhead c ?_, hlast⟩, lead, trail, hlead, htrail, hcs.trans ?_⟩
    · rw [hstart]
      exact List.mem_head?_append_of_mem_head? hc
    · exact congrArg (lead ++ ·) hstart
  · rintro ⟨htrimmed, lead, trail, hlead, htrail, rfl⟩
    rw [trim, trimStart_append hlead]
    cases ds with
    | nil =>
      have hnil : trimStart trail = [] := List.dropWhile_eq_nil_iff.mpr htrail
      rw [List.nil_append, hnil]
      rfl
    | cons c ds =>
      have hstart : trimStart (c :: ds ++ trail) = c :: ds ++ trail :=
        trimStart_of_head (by simpa using htrimmed.head c rfl)
      rw [hstart, trimEnd_append htrail, trimEnd_of_last htrimmed.last]

theorem trim_append (htrimmed : Trimmed cs) (hlead : Blank lead) (htrail : Blank trail) :
    trim (lead ++ (cs ++ trail)) = cs :=
  trim_eq_iff.mpr ⟨htrimmed, lead, trail, hlead, htrail, rfl⟩

/-- White space before what does not start with white space is told from it. -/
theorem blank_append_inj (hlead : Blank lead) (hlead' : Blank lead')
    (hhead : ∀ c ∈ rest.head?, isBlank c = false) (hhead' : ∀ c ∈ rest'.head?, isBlank c = false)
    (h : lead ++ rest = lead' ++ rest') : lead = lead' ∧ rest = rest' := by
  have hstart := congrArg trimStart h
  rw [trimStart_append hlead, trimStart_append hlead', trimStart_of_head hhead,
    trimStart_of_head hhead'] at hstart
  subst hstart
  exact ⟨List.append_cancel_right h, rfl⟩

end ViewModel.Text
