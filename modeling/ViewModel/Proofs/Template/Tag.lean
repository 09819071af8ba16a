import ViewModel.Proofs.Success
import ViewModel.Proofs.Text.Trim
import ViewModel.Template.Read

/-!
The tags of templates as they are written: a path, or the start or the end of a block, with white
space where it may stand. What is read as a tag is written as one, and in one way only.
-/

namespace ViewModel.Template

open Text (Blank Trimmed isBlank)

variable {c : Char} {cs inside raw : List Char} {path : List String}

/-! Paths. -/

/-- The segments of a path. Only the first may be `this`. -/
def IsPath : List String → Prop
  | [] => False
  | first :: rest =>
      (∃ c cs, first.toList = c :: cs ∧ isPathStart c = true ∧ ∀ x ∈ cs, isPathPart x = true) ∧
        ∀ s ∈ rest, s ≠ "" ∧ s ≠ "this" ∧ ∀ x ∈ s.toList, isPathPart x = true

/-- A path as it is written. -/
def pathText (path : List String) : List Char := ['.'].intercalate (path.map String.toList)

theorem isPathPart_of_isPathStart (h : isPathStart c = true) : isPathPart c = true := by
  simp only [isPathStart, Bool.or_eq_true, decide_eq_true_eq] at h
  rcases h with (h | rfl) | rfl
  · simp [isPathPart, Text.isWord_of_isAlpha h]
  · rfl
  · rfl

theorem isBlank_of_isPathPart (h : isPathPart c = true) : isBlank c = false := by
  simp only [isPathPart, Bool.or_eq_true, decide_eq_true_eq] at h
  rcases h with (h | rfl) | rfl
  · exact Text.isBlank_of_isWord h
  · rfl
  · rfl

theorem IsPath.isPathPart (h : IsPath path) {s : String} (hs : s ∈ path) (hc : c ∈ s.toList) :
    isPathPart c = true := by
  cases path with
  | nil => cases hs
  | cons first rest =>
    obtain ⟨⟨start, more, hfirst, hstart, hmore⟩, hrest⟩ := h
    rcases List.mem_cons.mp hs with rfl | hs
    · rw [hfirst] at hc
      rcases List.mem_cons.mp hc with rfl | hc
      · exact isPathPart_of_isPathStart hstart
      · exact hmore c hc
    · exact (hrest s hs).2.2 c hc

/-- A path starts with its first segment. -/
theorem IsPath.exists_eq_cons (h : IsPath path) :
    ∃ start more, pathText path = start :: more ∧ isPathStart start = true := by
  cases path with
  | nil => exact h.elim
  | cons first rest =>
    obtain ⟨⟨start, more, hfirst, hstart, -⟩, -⟩ := h
    cases rest with
    | nil => exact ⟨start, more, by simp [pathText, List.intercalate, hfirst], hstart⟩
    | cons second rest =>
      exact ⟨start, _, by simp [pathText, List.intercalate, hfirst]; rfl, hstart⟩

theorem mem_pathText (hc : c ∈ pathText path) : c = '.' ∨ ∃ s ∈ path, c ∈ s.toList := by
  induction path with
  | nil => cases hc
  | cons first rest ih =>
    cases rest with
    | nil => exact .inr ⟨first, List.mem_cons_self, by simpa [pathText, List.intercalate] using hc⟩
    | cons second rest =>
      have hsplit : pathText (first :: second :: rest) =
          first.toList ++ '.' :: pathText (second :: rest) := by
        simp [pathText, List.intercalate]
      rw [hsplit, List.mem_append, List.mem_cons] at hc
      rcases hc with hc | rfl | hc
      · exact .inr ⟨first, List.mem_cons_self, hc⟩
      · exact .inl rfl
      · rcases ih hc with rfl | ⟨s, hs, hcs⟩
        · exact .inl rfl
        · exact .inr ⟨s, List.mem_cons_of_mem _ hs, hcs⟩

theorem IsPath.solid (h : IsPath path) : ∀ c ∈ pathText path, isBlank c = false := by
  intro c hc
  rcases mem_pathText hc with rfl | ⟨s, hs, hc⟩
  · rfl
  · exact isBlank_of_isPathPart (h.isPathPart hs hc)

theorem IsPath.ne_nil (h : IsPath path) : pathText path ≠ [] := by
  obtain ⟨start, more, hstart, -⟩ := h.exists_eq_cons
  exact hstart ▸ List.cons_ne_nil _ _

theorem IsPath.not_brace (h : IsPath path) : '\x7d' ∉ pathText path := by
  intro hc
  rcases mem_pathText hc with hdot | ⟨s, hs, hc⟩
  · exact absurd hdot (by decide)
  · exact absurd (h.isPathPart hs hc) (by decide)

theorem IsPath.not_dot (h : IsPath path) : ∀ cs ∈ path.map String.toList, '.' ∉ cs := by
  intro cs hcs hdot
  obtain ⟨s, hs, rfl⟩ := List.mem_map.mp hcs
  exact absurd (h.isPathPart hs hdot) (by decide)

theorem arePathSegments_iff : IsPath path ↔
    arePathSegments (path.map String.toList) = true ∧ "this" ∉ path.tail := by
  cases path with
  | nil => simp [IsPath, arePathSegments]
  | cons first rest =>
    simp only [IsPath, arePathSegments, List.map_cons, List.tail_cons, Bool.and_eq_true,
      List.all_eq_true, List.mem_map]
    constructor
    · rintro ⟨⟨start, more, hfirst, hstart, hmore⟩, hrest⟩
      refine ⟨⟨⟨?_, ?_⟩, ?_⟩, fun hthis => (hrest _ hthis).2.1 rfl⟩
      · rw [hfirst]
        exact hstart
      · rw [hfirst]
        exact hmore
      · rintro _ ⟨s, hs, rfl⟩
        have hempty : s.toList ≠ [] := fun he => (hrest s hs).1 (String.toList_eq_nil_iff.mp he)
        exact ⟨by simpa using hempty, (hrest s hs).2.2⟩
    · rintro ⟨⟨⟨hstart, hmore⟩, hrest⟩, hthis⟩
      refine ⟨?_, fun s hs => ?_⟩
      · cases hfirst : first.toList with
        | nil => simp [hfirst] at hstart
        | cons start more =>
          rw [hfirst] at hstart hmore
          exact ⟨start, more, rfl, hstart, hmore⟩
      · obtain ⟨hempty, hparts⟩ := hrest _ ⟨s, hs, rfl⟩
        refine ⟨?_, ?_, hparts⟩
        · rintro rfl
          exact Bool.false_ne_true hempty
        · rintro rfl
          exact hthis hs

/-- The texts that are read as a path. -/
theorem path_eq_ok : Template.path raw = .ok path ↔ IsPath path ∧ raw = pathText path := by
  have hsegments : (raw.splitOn '.').map String.ofList = path ↔
      raw.splitOn '.' = path.map String.toList := by
    constructor
    · rintro rfl
      simp
    · intro h
      simp [h]
  have hthis : (path.map String.toList).tail.contains "this".toList = true ↔
      "this" ∈ path.tail := by
    rw [List.contains_iff_mem, ← List.map_tail]
    exact List.mem_map_of_injective fun _ _ => String.toList_inj.mp
  constructor
  · intro h
    simp only [Template.path] at h
    split at h
    · cases h
    next hpath =>
      split at h
      · cases h
      next hinner =>
        injection h with h
        rw [hsegments.mp h] at hpath hinner
        refine ⟨arePathSegments_iff.mpr ⟨by simpa using hpath, fun hmem => ?_⟩, ?_⟩
        · exact hinner (hthis.mpr hmem)
        · rw [pathText, ← hsegments.mp h, List.intercalate_splitOn]
  · rintro ⟨hpath, rfl⟩
    have hne : path.map String.toList ≠ [] := by
      cases path with
      | nil => exact hpath.elim
      | cons first rest => exact List.cons_ne_nil _ _
    have hsplit : (pathText path).splitOn '.' = path.map String.toList :=
      List.splitOn_intercalate '.' hpath.not_dot hne
    obtain ⟨hparts, hinner⟩ := arePathSegments_iff.mp hpath
    have hinner : (path.map String.toList).tail.contains "this".toList = false :=
      Bool.eq_false_iff.mpr fun h => hinner (hthis.mp h)
    simp only [Template.path, hsplit, hparts, hinner]
    simp

/-! Tags. -/

/-- White space that may be empty. -/
abbrev Blanks := { cs : List Char // Blank cs }

/-- The segments of a path. -/
abbrev Path := { path : List String // IsPath path }

/-- What stands inside a tag for a value. -/
structure Slot where
  lead : Blanks
  path : Path
  notElse : path.1 ≠ ["else"]
  trail : Blanks

def Slot.inner (s : Slot) : List Char := s.lead.1 ++ (pathText s.path.1 ++ s.trail.1)

/-- What stands inside the tag that starts a block. -/
structure Opening where
  lead : Blanks
  helper : Helper
  gap : Blanks
  apart : gap.1 ≠ []
  path : Path
  trail : Blanks

def Opening.core (o : Opening) : List Char :=
  '#' :: (o.helper.name.toList ++ (o.gap.1 ++ pathText o.path.1))

def Opening.inner (o : Opening) : List Char := o.lead.1 ++ (o.core ++ o.trail.1)

/-- What stands inside the tag that ends a block, but for the helper of the block. -/
structure Closing where
  lead : Blanks
  gap : Blanks
  trail : Blanks

def Closing.inner (k : Closing) (helper : Helper) : List Char :=
  k.lead.1 ++ ('/' :: (k.gap.1 ++ helper.name.toList) ++ k.trail.1)

variable {helper : Helper}

theorem isWord_of_helper (helper : Helper) :
    helper.name.toList ≠ [] ∧ ∀ c ∈ helper.name.toList, Text.isWord c = true := by
  have hletters : helper.name.toList ≠ [] ∧ helper.name.toList.all Char.isAlpha = true := by
    cases helper <;> decide
  exact ⟨hletters.1, fun c hc => Text.isWord_of_isAlpha (List.all_eq_true.mp hletters.2 c hc)⟩

theorem isSolid_of_helper (helper : Helper) :
    helper.name.toList ≠ [] ∧ ∀ c ∈ helper.name.toList, isBlank c = false :=
  ⟨(isWord_of_helper helper).1, fun c hc =>
    Text.isBlank_of_isWord ((isWord_of_helper helper).2 c hc)⟩

theorem Opening.trimmed (o : Opening) : Trimmed o.core := by
  rw [Opening.core, ← List.append_assoc]
  exact Trimmed.cons_append rfl o.path.2.ne_nil o.path.2.solid

theorem trimmed_closing (gap : Blanks) (helper : Helper) :
    Trimmed ('/' :: (gap.1 ++ helper.name.toList)) := by
  obtain ⟨hne, hsolid⟩ := isSolid_of_helper helper
  exact Trimmed.cons_append rfl hne hsolid

/-- White space keeps a tag from starting with a third brace. -/
theorem head?_ne_brace {core trail : List Char} (lead : Blanks) (hc : c ≠ '\x7b') :
    (lead.1 ++ (c :: core ++ trail)).head? ≠ some '\x7b' := by
  obtain ⟨lead, hlead⟩ := lead
  cases lead with
  | nil => simpa using hc
  | cons first lead =>
    intro h
    obtain rfl : first = '\x7b' := by simpa using h
    exact absurd (hlead _ List.mem_cons_self) (by decide)

theorem splitBlock_eq_some {word rest : List Char} : splitBlock cs = some (word, rest) ↔
    (word ≠ [] ∧ ∀ c ∈ word, Text.isWord c = true) ∧ (rest ≠ [] ∧ ∀ c ∈ rest, isBlank c = false) ∧
      ∃ gap, gap ≠ [] ∧ Blank gap ∧ cs = word ++ (gap ++ rest) := by
  constructor
  · intro h
    simp only [splitBlock, Option.ite_none_left_eq_some, Bool.or_eq_true, not_or, Option.some.injEq,
      Prod.mk.injEq, Bool.not_eq_true', Bool.not_eq_false, List.isEmpty_iff,
      List.any_eq_true, not_exists, not_and, Bool.not_eq_true] at h
    obtain ⟨⟨⟨⟨hword, hhead⟩, hrest⟩, hsolid⟩, rfl, rfl⟩ := h
    refine ⟨⟨hword, fun c => List.mem_takeWhile_imp⟩, ⟨hrest, hsolid⟩,
      (cs.dropWhile Text.isWord).takeWhile isBlank, ?_, fun c => List.mem_takeWhile_imp, ?_⟩
    · intro hgap
      cases hafter : cs.dropWhile Text.isWord with
      | nil => simp [hafter] at hhead
      | cons c after =>
        rw [hafter] at hhead hgap
        have hc : isBlank c = true := hhead
        simp [hc] at hgap
    · rw [List.takeWhile_append_dropWhile, List.takeWhile_append_dropWhile]
  · rintro ⟨⟨hword, hwords⟩, ⟨hrest, hsolid⟩, gap, hgap, hblank, rfl⟩
    obtain ⟨g, gap, rfl⟩ := List.exists_cons_of_ne_nil hgap
    obtain ⟨r, rest, rfl⟩ := List.exists_cons_of_ne_nil hrest
    have hg : Text.isWord g = false := by
      by_contra hg
      have hsolid := Text.isBlank_of_isWord (eq_true_of_ne_false hg)
      rw [hblank g List.mem_cons_self] at hsolid
      cases hsolid
    have hafter : (word ++ (g :: gap ++ r :: rest)).dropWhile Text.isWord =
        g :: gap ++ r :: rest := by
      rw [List.dropWhile_append_of_pos hwords]
      exact List.dropWhile_cons_of_neg (by simp [hg])
    have hbefore : (word ++ (g :: gap ++ r :: rest)).takeWhile Text.isWord = word := by
      rw [List.takeWhile_append_of_pos hwords]
      simp [hg]
    have hpath : (g :: gap ++ r :: rest).dropWhile isBlank = r :: rest := by
      rw [List.dropWhile_append_of_pos hblank]
      exact List.dropWhile_cons_of_neg (by simp [hsolid r List.mem_cons_self])
    have hg : isBlank g = true := hblank g List.mem_cons_self
    have hrest : (r :: rest).any isBlank = false := by simpa using hsolid
    simp only [splitBlock, hbefore, hafter, hpath, hrest]
    simp [hword, hg]

theorem ofName?_eq_some {name : String} : Helper.ofName? name = some helper ↔
    helper.name = name := by
  constructor
  · intro h
    simpa using List.find?_some h
  · rintro rfl
    exact Helper.ofName?_name helper

theorem opening_eq_ok {tag : Tag} : opening ('#' :: cs) = .ok tag ↔
    ∃ helper path gap, tag = .opening helper path ∧ IsPath path ∧ gap ≠ [] ∧ Blank gap ∧
      cs = helper.name.toList ++ (gap ++ pathText path) := by
  constructor
  · intro h
    simp only [opening, List.tail_cons] at h
    split at h
    · cases h
    next word raw hblock =>
      split at h
      · cases h
      next helper hhelper =>
        obtain ⟨path, hpath, htag⟩ := Success.bind_eq_ok.mp h
        obtain ⟨his, rfl⟩ := path_eq_ok.mp hpath
        obtain ⟨-, -, gap, hne, hgap, rfl⟩ := splitBlock_eq_some.mp hblock
        have hword : helper.name.toList = word := by
          rw [ofName?_eq_some.mp hhelper, String.toList_ofList]
        exact ⟨helper, path, gap, (Success.pure_eq_ok.mp htag).symm, his, hne, hgap,
          by rw [hword]⟩
  · rintro ⟨helper, path, gap, rfl, hpath, hne, hgap, rfl⟩
    have hblock : splitBlock (helper.name.toList ++ (gap ++ pathText path)) =
        some (helper.name.toList, pathText path) :=
      splitBlock_eq_some.mpr ⟨isWord_of_helper helper,
        ⟨hpath.ne_nil, hpath.solid⟩, gap, hne, hgap, rfl⟩
    have hread : Template.path (pathText path) = .ok path := path_eq_ok.mpr ⟨hpath, rfl⟩
    simp only [opening, List.tail_cons, hblock, String.ofList_toList, Helper.ofName?_name]
    rw [hread]
    rfl

theorem IsPath.eq_else (h : IsPath path) (htext : pathText path = "else".toList) :
    path = ["else"] := by
  have hread : Template.path "else".toList = .ok path := path_eq_ok.mpr ⟨h, htext.symm⟩
  have helse : Template.path "else".toList = .ok ["else"] := rfl
  exact Except.ok.inj (hread.symm.trans helse)

theorem IsPath.not_else_prefix (h : IsPath path) :
    "else ".toList.isPrefixOf (pathText path) = false := by
  by_contra hprefix
  have hprefix : "else ".toList <+: pathText path :=
    List.isPrefixOf_iff_prefix.mp (eq_true_of_ne_false hprefix)
  have hspace : ' ' ∈ pathText path := hprefix.subset (by decide)
  exact absurd (h.solid _ hspace) (by decide)

/-- What a tag may say: its mark decides. -/
theorem classify_eq_ok {tag : Tag} : classify inside = .ok tag ↔ inside.head? ≠ some '\x7b' ∧
    ((∃ cs, Text.trim inside = '#' :: cs ∧ opening ('#' :: cs) = .ok tag) ∨
      (∃ cs, Text.trim inside = '/' :: cs ∧ tag = .closing (String.ofList (Text.trim cs))) ∨
      ∃ path, tag = .slot path ∧ path ≠ ["else"] ∧ IsPath path ∧
        Text.trim inside = pathText path) := by
  constructor
  · intro h
    simp only [classify] at h
    split at h
    · cases h
    next hbrace =>
      refine ⟨hbrace, ?_⟩
      split at h
      · cases h
      next hmark =>
        obtain ⟨cs, hcs⟩ := List.head?_eq_some_iff.mp hmark
        rw [hcs] at h
        exact .inl ⟨cs, hcs, h⟩
      next hmark =>
        obtain ⟨cs, hcs⟩ := List.head?_eq_some_iff.mp hmark
        rw [hcs] at h
        exact .inr (.inl ⟨cs, hcs, (Except.ok.inj h).symm⟩)
      · cases h
      · cases h
      · cases h
      · cases h
      next hmark =>
        split at h
        · cases h
        next helse =>
          obtain ⟨path, hpath, rfl⟩ := Success.map_eq_ok.mp h
          obtain ⟨his, htext⟩ := path_eq_ok.mp hpath
          refine .inr (.inr ⟨path, rfl, ?_, his, htext⟩)
          rintro rfl
          exact helse (.inl htext)
  · rintro ⟨hbrace, ⟨cs, htrim, h⟩ | ⟨cs, htrim, rfl⟩ | ⟨path, rfl, hne, his, htrim⟩⟩
    · simp only [classify, if_neg hbrace, htrim, List.head?_cons]
      exact h
    · simp only [classify, if_neg hbrace, htrim, List.head?_cons, List.tail_cons]
    · obtain ⟨start, more, hpath, hstart⟩ := his.exists_eq_cons
      have helse : ¬ (pathText path = "else".toList ∨
          "else ".toList.isPrefixOf (pathText path) = true) := by
        rintro (h | h)
        · exact hne (his.eq_else h)
        · exact Bool.false_ne_true (his.not_else_prefix.symm.trans h)
      have hread : Template.path (pathText path) = .ok path := path_eq_ok.mpr ⟨his, rfl⟩
      have hmark : (pathText path).head? = some start := by rw [hpath, List.head?_cons]
      simp only [classify, if_neg hbrace, htrim, hmark]
      -- A path starts with none of the marks, so that only the last case is left.
      split
      case h_1 => contradiction
      case h_8 =>
        rw [if_neg helse, hread]
        rfl
      all_goals
        next hother => exact absurd (Option.some.inj hother ▸ hstart) (by decide)

theorem classify_slot (s : Slot) : classify s.inner = .ok (.slot s.path.1) := by
  obtain ⟨start, more, hpath, hstart⟩ := s.path.2.exists_eq_cons
  have hbrace : start ≠ '\x7b' := by
    rintro rfl
    exact absurd hstart (by decide)
  refine classify_eq_ok.mpr ⟨?_, .inr (.inr ⟨_, rfl, s.notElse, s.path.2,
    Text.trim_append (Trimmed.of_solid s.path.2.solid) s.lead.2 s.trail.2⟩)⟩
  rw [Slot.inner, hpath]
  exact head?_ne_brace s.lead hbrace

theorem classify_opening (o : Opening) : classify o.inner = .ok (.opening o.helper o.path.1) :=
  classify_eq_ok.mpr ⟨head?_ne_brace o.lead (by decide),
    .inl ⟨_, Text.trim_append o.trimmed o.lead.2 o.trail.2,
      opening_eq_ok.mpr ⟨_, _, _, rfl, o.path.2, o.apart, o.gap.2, rfl⟩⟩⟩

theorem trim_closing (gap : Blanks) (helper : Helper) :
    Text.trim (gap.1 ++ helper.name.toList) = helper.name.toList := by
  have htrimmed := Trimmed.of_solid (isSolid_of_helper helper).2
  refine Text.trim_eq_iff.mpr ⟨htrimmed, gap.1, [], gap.2, ?_, ?_⟩
  · intro c hc
    cases hc
  · rw [List.append_nil]

theorem classify_closing (k : Closing) (helper : Helper) :
    classify (k.inner helper) = .ok (.closing helper.name) := by
  refine classify_eq_ok.mpr ⟨head?_ne_brace k.lead (by decide),
    .inr (.inl ⟨_, Text.trim_append (trimmed_closing k.gap helper) k.lead.2 k.trail.2, ?_⟩)⟩
  rw [trim_closing, String.ofList_toList]

/-! What is read as a tag is written as one. -/

theorem exists_slot (h : classify inside = .ok (.slot path)) :
    ∃ s : Slot, s.inner = inside ∧ s.path.1 = path := by
  obtain ⟨-, ⟨cs, -, h⟩ | ⟨cs, -, h⟩ | ⟨_, h, hne, his, htrim⟩⟩ := classify_eq_ok.mp h
  · obtain ⟨_, _, _, h, -⟩ := opening_eq_ok.mp h
    cases h
  · cases h
  · obtain rfl := Tag.slot.inj h
    obtain ⟨-, lead, trail, hlead, htrail, rfl⟩ := Text.trim_eq_iff.mp htrim
    exact ⟨⟨⟨lead, hlead⟩, ⟨path, his⟩, hne, ⟨trail, htrail⟩⟩, rfl, rfl⟩

theorem exists_opening (h : classify inside = .ok (.opening helper path)) :
    ∃ o : Opening, o.inner = inside ∧ o.helper = helper ∧ o.path.1 = path := by
  obtain ⟨-, ⟨cs, htrim, h⟩ | ⟨cs, -, h⟩ | ⟨_, h, -⟩⟩ := classify_eq_ok.mp h
  · obtain ⟨_, _, gap, htag, his, hne, hgap, rfl⟩ := opening_eq_ok.mp h
    obtain ⟨rfl, rfl⟩ := Tag.opening.inj htag
    obtain ⟨-, lead, trail, hlead, htrail, rfl⟩ := Text.trim_eq_iff.mp htrim
    exact ⟨⟨⟨lead, hlead⟩, helper, ⟨gap, hgap⟩, hne, ⟨path, his⟩, ⟨trail, htrail⟩⟩, rfl, rfl, rfl⟩
  · cases h
  · cases h

theorem exists_closing (h : classify inside = .ok (.closing helper.name)) :
    ∃ k : Closing, k.inner helper = inside := by
  obtain ⟨-, ⟨cs, -, h⟩ | ⟨cs, htrim, hname⟩ | ⟨_, h, -⟩⟩ := classify_eq_ok.mp h
  · obtain ⟨_, _, _, h, -⟩ := opening_eq_ok.mp h
    cases h
  · have hname : Text.trim cs = helper.name.toList := by
      rw [Tag.closing.inj hname, String.toList_ofList]
    obtain ⟨-, lead, trail, hlead, htrail, rfl⟩ := Text.trim_eq_iff.mp htrim
    obtain ⟨-, gap, after, hgap, hafter, rfl⟩ := Text.trim_eq_iff.mp hname
    have hend : Blank (after ++ trail) := fun c hc =>
      (List.mem_append.mp hc).elim (hafter c) (htrail c)
    refine ⟨⟨⟨lead, hlead⟩, ⟨gap, hgap⟩, ⟨after ++ trail, hend⟩⟩, ?_⟩
    simp [Closing.inner]
  · cases h

/-! A tag is written in one way only. -/

theorem Slot.inner_injective : Function.Injective Slot.inner := by
  intro s s' h
  have hread := (classify_slot s).symm.trans ((congrArg classify h).trans (classify_slot s'))
  have hpath : s.path = s'.path := Subtype.ext (Tag.slot.inj (Except.ok.inj hread))
  obtain ⟨lead, path, _, trail⟩ := s
  obtain ⟨lead', _, _, trail'⟩ := s'
  obtain rfl : path = _ := hpath
  have hhead := Text.solid_head path.2.ne_nil path.2.solid
  obtain ⟨hlead, hrest⟩ := Text.blank_append_inj lead.2 lead'.2 (hhead _) (hhead _) h
  obtain rfl : lead = lead' := Subtype.ext hlead
  obtain rfl : trail = trail' := Subtype.ext (List.append_cancel_left hrest)
  rfl

theorem Opening.inner_injective : Function.Injective Opening.inner := by
  intro o o' h
  have hread := (classify_opening o).symm.trans ((congrArg classify h).trans (classify_opening o'))
  obtain ⟨hhelper, hpath⟩ := Tag.opening.inj (Except.ok.inj hread)
  have hpath : o.path = o'.path := Subtype.ext hpath
  obtain ⟨lead, helper, gap, _, path, trail⟩ := o
  obtain ⟨lead', _, gap', _, _, trail'⟩ := o'
  obtain rfl : helper = _ := hhelper
  obtain rfl : path = _ := hpath
  have hmark := Text.mark_head (c := '#') rfl
  obtain ⟨hlead, hcore⟩ := Text.blank_append_inj lead.2 lead'.2 (hmark _) (hmark _) h
  have hrest : gap.1 ++ (pathText path.1 ++ trail.1) = gap'.1 ++ (pathText path.1 ++ trail'.1) := by
    simpa [Opening.core] using hcore
  have hhead := Text.solid_head path.2.ne_nil path.2.solid
  obtain ⟨hgap, htext⟩ := Text.blank_append_inj gap.2 gap'.2 (hhead _) (hhead _) hrest
  obtain rfl : lead = lead' := Subtype.ext hlead
  obtain rfl : gap = gap' := Subtype.ext hgap
  obtain rfl : trail = trail' := Subtype.ext (List.append_cancel_left htext)
  rfl

theorem Closing.inner_injective (helper : Helper) :
    Function.Injective fun k : Closing => k.inner helper := by
  intro k k' h
  obtain ⟨lead, gap, trail⟩ := k
  obtain ⟨lead', gap', trail'⟩ := k'
  have hmark := Text.mark_head (c := '/') rfl
  obtain ⟨hlead, hcore⟩ := Text.blank_append_inj lead.2 lead'.2 (hmark _) (hmark _) h
  have hrest : gap.1 ++ (helper.name.toList ++ trail.1) =
      gap'.1 ++ (helper.name.toList ++ trail'.1) := by
    simpa using hcore
  obtain ⟨hne, hsolid⟩ := isSolid_of_helper helper
  have hhead := Text.solid_head hne hsolid
  obtain ⟨hgap, htext⟩ := Text.blank_append_inj gap.2 gap'.2 (hhead _) (hhead _) hrest
  obtain rfl : lead = lead' := Subtype.ext hlead
  obtain rfl : gap = gap' := Subtype.ext hgap
  obtain rfl : trail = trail' := Subtype.ext (List.append_cancel_left htext)
  rfl

/-! No tag ends before its end. -/

theorem Blanks.not_brace (cs : Blanks) : '\x7d' ∉ cs.1 := fun h => absurd (cs.2 _ h) (by decide)

theorem name_not_brace (helper : Helper) : '\x7d' ∉ helper.name.toList := by
  cases helper <;> decide

theorem Slot.not_brace (s : Slot) : '\x7d' ∉ s.inner := by
  simp only [Slot.inner, List.mem_append, not_or]
  exact ⟨Blanks.not_brace _, s.path.2.not_brace, Blanks.not_brace _⟩

theorem Opening.not_brace (o : Opening) : '\x7d' ∉ o.inner := by
  simp only [Opening.inner, Opening.core, List.mem_append, List.mem_cons, not_or]
  exact ⟨Blanks.not_brace _, ⟨by decide, name_not_brace _, Blanks.not_brace _,
    o.path.2.not_brace⟩, Blanks.not_brace _⟩

theorem Closing.not_brace (k : Closing) (helper : Helper) : '\x7d' ∉ k.inner helper := by
  simp only [Closing.inner, List.mem_append, List.mem_cons, not_or]
  exact ⟨Blanks.not_brace _, ⟨⟨by decide, Blanks.not_brace _, name_not_brace _⟩,
    Blanks.not_brace _⟩⟩

end ViewModel.Template
