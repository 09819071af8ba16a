import ViewModel.Proofs.Template.Written

/-!
Where reading stands in a template. A text is read as a row of tags in place, up to its end or to
its first fault, and what stands on which line is counted from the text alone: each node is on the
line on which its tag starts, and a fault is reported where it starts.
-/

namespace ViewModel.Template

/-! Nodes and their lines. -/

mutual

/-- The tags of a node in the order of the text, with the lines the node has for them. -/
def nodeTags : Node → List (Tag × Nat)
  | .text _ => []
  | .slot path line => [(.slot path, line)]
  | .block helper path line body => (.opening helper path, line) :: tagsOf body

def tagsOf : List Node → List (Tag × Nat)
  | [] => []
  | node :: nodes => nodeTags node ++ tagsOf nodes

end

@[simp] theorem tagsOf_append (nodes more : List Node) :
    tagsOf (nodes ++ more) = tagsOf nodes ++ tagsOf more := by
  induction nodes with
  | nil => rfl
  | cons node nodes ih => simp [tagsOf, ih]

@[simp] theorem tagsOf_textNodes (cs : List Char) : tagsOf (textNodes cs) = [] := by
  rw [textNodes]
  split <;> rfl

/-- The tags of open blocks, which are innermost first. -/
def frameTags : List Frame → List (Tag × Nat)
  | [] => []
  | f :: frames => frameTags frames ++ (tagsOf f.before ++ [(.opening f.helper f.path, f.line)])

/-! Tags in place. -/

/-- The line on which what stands behind a text starts. -/
def lineAfter (before : List Char) : Nat := 1 + Text.newlines before

/-- A tag that makes a node, with the text before it. -/
structure Mark where
  before : List Char
  tag : Tag

/-- A block that is open, with the text before the tag that opens it. -/
structure Opened where
  before : List Char
  helper : Helper

/-- A tag that is in place behind a text, where some blocks are open, innermost first, and some
tags make nodes: which blocks are open behind it, and which tags make nodes then. -/
inductive Fits (before : List Char) :
    List Opened → List Mark → List Char → List Opened → List Mark → Prop
  | slot (blocks : List Opened) (marks : List Mark) (tag : Slot) :
      Fits before blocks marks tag.inner blocks (marks ++ [⟨before, .slot tag.path.1⟩])
  | opening (blocks : List Opened) (marks : List Mark) (start : Opening)
      (hdepth : blocks.length < maxBlockDepth) :
      Fits before blocks marks start.inner (⟨before, start.helper⟩ :: blocks)
        (marks ++ [⟨before, .opening start.helper start.path.1⟩])
  | closing (block : Opened) (blocks : List Opened) (marks : List Mark) (stop : Closing) :
      Fits before (block :: blocks) marks (stop.inner block.helper) blocks marks

/-- A tag that is not in place where some blocks are open. -/
inductive Faulty (blocks : List Opened) : List Char → Prop
  | malformed {inside : List Char} (hslot : ∀ tag : Slot, tag.inner ≠ inside)
      (hopening : ∀ start : Opening, start.inner ≠ inside)
      (hclosing : ∀ (lead : Blanks) (name : List Char), lead.1 ++ '/' :: name ≠ inside) :
      Faulty blocks inside
  | closing (lead : Blanks) (name : List Char)
      (hwrong : ∀ block ∈ blocks.head?, ∀ stop : Closing,
        stop.inner block.helper ≠ lead.1 ++ '/' :: name) :
      Faulty blocks (lead.1 ++ '/' :: name)
  | tooDeep (start : Opening) (hdepth : maxBlockDepth ≤ blocks.length) :
      Faulty blocks start.inner

/-- The start of a template up to the end of a tag, if all its tags are in place. -/
inductive Begun : List Opened → List Mark → List Char → Prop
  | start : Begun [] [] []
  | tag {blocks blocks' : List Opened} {marks marks' : List Mark} {done inside : List Char}
      (h : Begun blocks marks done) (before : Run)
      (hfits : Fits (done ++ before.chars) blocks marks inside blocks' marks') :
      Begun blocks' marks' (done ++ before.chars ++ tagged inside)

/-- The first fault of a text, with the text before it: the first complete tag that is not in
place; where all are, the first tag that does not end; and where all end, the tag that opens the
innermost block that is left open. -/
inductive FirstFault : List Char → List Char → Prop
  | tag {blocks : List Opened} {marks : List Mark} {done inside : List Char}
      (h : Begun blocks marks done) (before : Run) (hcomplete : Complete inside)
      (hfaulty : Faulty blocks inside) (rest : List Char) :
      FirstFault (done ++ before.chars ++ (tagged inside ++ rest)) (done ++ before.chars)
  | unterminated {blocks : List Opened} {marks : List Mark} {done rest : List Char}
      (h : Begun blocks marks done) (before : Run)
      (hrest : ¬ ['\x7d', '\x7d'] <:+: rest) :
      FirstFault (done ++ before.chars ++ '\x7b' :: '\x7b' :: rest) (done ++ before.chars)
  | unclosed {block : Opened} {blocks : List Opened} {marks : List Mark} {done : List Char}
      (h : Begun (block :: blocks) marks done) (ending : Ending) :
      FirstFault (done ++ ending.chars) block.before

variable {blocks blocks' : List Opened} {marks marks' : List Mark}
variable {inside done : List Char} {p : Progress}

/-! Every text is a row of tags in place up to its end or to a fault. -/

theorem Fits.complete {before : List Char} (h : Fits before blocks marks inside blocks' marks') :
    Complete inside := by
  cases h with
  | slot blocks marks tag => exact .of_not_mem tag.not_brace
  | opening blocks marks start => exact .of_not_mem start.not_brace
  | closing block blocks marks stop => exact .of_not_mem (stop.not_brace _)

/-- What ends a block says so by its mark. -/
theorem exists_closing_mark {name : String} (h : classify inside = .ok (.closing name)) :
    ∃ (lead : Blanks) (cs : List Char), inside = lead.1 ++ '/' :: cs := by
  obtain ⟨-, ⟨cs, -, h⟩ | ⟨cs, htrim, -⟩ | ⟨_, h, -⟩⟩ := classify_eq_ok.mp h
  · obtain ⟨_, _, _, h, -⟩ := opening_eq_ok.mp h
    cases h
  · obtain ⟨-, lead, trail, hlead, -, rfl⟩ := Text.trim_eq_iff.mp htrim
    exact ⟨⟨lead, hlead⟩, cs ++ trail, rfl⟩
  · cases h

theorem classify_closing_mark (lead : Blanks) (cs : List Char) :
    ∃ name, classify (lead.1 ++ '/' :: cs) = .ok (.closing name) := by
  obtain ⟨⟨trail, htrail, hcs⟩, -⟩ := Text.exists_trimEnd ('/' :: cs)
  cases hend : Text.trimEnd ('/' :: cs) with
  | nil =>
    rw [hend, List.nil_append] at hcs
    exact absurd (htrail '/' (hcs ▸ List.mem_cons_self)) (by decide)
  | cons c rest =>
    rw [hend] at hcs
    obtain rfl : '/' = c := (List.cons.inj hcs).1
    have htrim : Text.trim (lead.1 ++ '/' :: cs) = '/' :: rest := by
      rw [Text.trim, Text.trimStart_append lead.2, Text.trimStart_of_head (Text.mark_head rfl cs),
        hend]
    have hbrace : (lead.1 ++ ('/' :: cs ++ [])).head? ≠ some '\x7b' :=
      head?_ne_brace lead (by decide)
    rw [List.append_nil] at hbrace
    exact ⟨_, classify_eq_ok.mpr ⟨hbrace, .inr (.inl ⟨rest, htrim, rfl⟩)⟩⟩

theorem fits_or_faulty (before : List Char) (blocks : List Opened) (marks : List Mark)
    (inside : List Char) : (∃ blocks' marks', Fits before blocks marks inside blocks' marks') ∨
      Faulty blocks inside := by
  cases hclass : classify inside with
  | error cause =>
    refine .inr (.malformed ?_ ?_ ?_)
    · rintro tag rfl
      rw [classify_slot] at hclass
      cases hclass
    · rintro start rfl
      rw [classify_opening] at hclass
      cases hclass
    · rintro lead cs rfl
      obtain ⟨name, hname⟩ := classify_closing_mark lead cs
      rw [hname] at hclass
      cases hclass
  | ok tag =>
    cases tag with
    | slot path =>
      obtain ⟨tag, rfl, rfl⟩ := exists_slot hclass
      exact .inl ⟨_, _, .slot blocks marks tag⟩
    | opening helper path =>
      obtain ⟨start, rfl, rfl, rfl⟩ := exists_opening hclass
      rcases Nat.lt_or_ge blocks.length maxBlockDepth with hdepth | hdepth
      · exact .inl ⟨_, _, .opening blocks marks start hdepth⟩
      · exact .inr (.tooDeep start hdepth)
    | closing name =>
      obtain ⟨lead, cs, rfl⟩ := exists_closing_mark hclass
      by_cases hright : ∃ block ∈ blocks.head?, ∃ stop : Closing,
          stop.inner block.helper = lead.1 ++ '/' :: cs
      · obtain ⟨block, hblock, stop, hstop⟩ := hright
        obtain ⟨blocks, rfl⟩ := List.head?_eq_some_iff.mp hblock
        rw [← hstop]
        exact .inl ⟨_, _, .closing block blocks marks stop⟩
      · push Not at hright
        exact .inr (.closing lead cs hright)

/-- Induction on the length of the rest: each tag leaves a shorter one. -/
theorem Begun.ends_or_faults (h : Begun blocks marks done) (rest : List Char) :
    (∃ marks' done' ending, Begun [] marks' done' ∧ done ++ rest = done' ++ Ending.chars ending) ∨
      ∃ before, FirstFault (done ++ rest) before := by
  induction hlength : rest.length using Nat.strong_induction_on
    generalizing blocks marks done rest with
  | _ n ih =>
  cases htag : splitTag rest with
  | none =>
    cases hpair : splitPair '\x7b' rest with
    | none =>
      have hending : ¬ ['\x7b', '\x7b'] <:+: rest := splitPair_eq_none_iff.mp hpair
      cases blocks with
      | nil => exact .inl ⟨marks, done, ⟨rest, hending⟩, h, rfl⟩
      | cons block blocks => exact .inr ⟨_, .unclosed h ⟨rest, hending⟩⟩
    | some found =>
      obtain ⟨before, after⟩ := found
      obtain ⟨hplain, hapart⟩ := splitPair_before hpair
      have hafter : splitPair '\x7d' after = none := by
        cases hafter : splitPair '\x7d' after with
        | none => rfl
        | some found => simp [splitTag, hpair, hafter] at htag
      rw [splitPair_eq hpair, ← List.append_assoc]
      exact .inr ⟨_, .unterminated h ⟨before, hplain, hapart⟩ (splitPair_eq_none_iff.mp hafter)⟩
  | some found =>
    obtain ⟨_, inside, after⟩ := found
    obtain ⟨before, rfl, rfl⟩ := exists_run htag
    have hshorter : after.length < n := by
      simp only [← hlength, tagged, List.length_append, List.length_cons]
      omega
    rcases fits_or_faulty (done ++ before.chars) blocks marks inside with
      ⟨blocks', marks', hfits⟩ | hfaulty
    · have hrest := ih _ hshorter (.tag h before hfits) after rfl
      simpa only [List.append_assoc] using hrest
    · rw [← List.append_assoc]
      exact .inr ⟨_, .tag h before (splitTag_complete htag) hfaulty after⟩

/-! What is read there. -/

/-- What reading has behind a text whose tags are in place. -/
structure Tracks (blocks : List Opened) (marks : List Mark) (done : List Char) (p : Progress) :
    Prop where
  line : p.line = lineAfter done
  frames : p.frames.map (fun f => (f.helper, f.line)) =
    blocks.map fun block => (block.helper, lineAfter block.before)
  tags : frameTags p.frames ++ tagsOf p.nodes =
    marks.map fun mark => (mark.tag, lineAfter mark.before)

namespace Tracks

theorem length (h : Tracks blocks marks done p) : p.frames.length = blocks.length := by
  simpa using congrArg List.length h.frames

theorem text (h : Tracks blocks marks done p) (cs : List Char) :
    Tracks blocks marks (done ++ cs) (p.addText cs) := by
  obtain ⟨frames, nodes, line⟩ := p
  obtain ⟨hline, hframes, htags⟩ := h
  rw [addText_eq]
  refine ⟨?_, hframes, ?_⟩
  · simp [show line = lineAfter done from hline, lineAfter, Nat.add_assoc]
  · simpa using htags

theorem lines (h : Tracks blocks marks done p) (inside : List Char) :
    Tracks blocks marks (done ++ tagged inside) { p with line := p.line + Text.newlines inside } :=
  ⟨by simp [h.line, lineAfter, Nat.add_assoc], h.frames, h.tags⟩

/-- A tag in place is read. -/
theorem fits (h : Tracks blocks marks done p)
    (hfits : Fits done blocks marks inside blocks' marks') :
    ∃ tag q, classify inside = .ok tag ∧ p.addTag tag = .ok q ∧ Tracks blocks' marks' done q := by
  have hdepth := h.length
  obtain ⟨hline, hframes, htags⟩ := h
  cases hfits with
  | slot blocks marks tag =>
    refine ⟨_, _, classify_slot tag, rfl, hline, hframes, ?_⟩
    simp [tagsOf, nodeTags, ← htags, hline]
  | opening blocks marks start hlt =>
    have hopen : ¬ maxBlockDepth ≤ p.frames.length := by omega
    refine ⟨_, _, classify_opening start, if_neg hopen, hline, ?_, ?_⟩
    · simp [hframes, hline]
    · simp [frameTags, tagsOf, ← htags, hline]
  | closing block blocks marks stop =>
    obtain ⟨frames, nodes, line⟩ := p
    cases frames with
    | nil => cases hframes
    | cons f frames =>
      obtain ⟨hframe, hframes⟩ := List.cons.inj hframes
      obtain ⟨hhelper, -⟩ := Prod.mk.inj hframe
      have hname : f.helper.name = block.helper.name := congrArg Helper.name hhelper
      refine ⟨_, _, classify_closing stop block.helper, if_pos hname, hline, hframes, ?_⟩
      simpa [frameTags, tagsOf, nodeTags] using htags

/-- A tag that is not in place stops the reading. -/
theorem faulty (h : Tracks blocks marks done p) (hfaulty : Faulty blocks inside) :
    ∃ cause, classify inside >>= p.addTag = .error cause := by
  cases hread : classify inside >>= p.addTag with
  | error cause => exact ⟨cause, rfl⟩
  | ok q =>
    obtain ⟨tag, hclass, hadd⟩ := Success.bind_eq_ok.mp hread
    exfalso
    cases hfaulty with
    | malformed hslot hopening hclosing =>
      cases tag with
      | slot path =>
        obtain ⟨tag, htag, -⟩ := exists_slot hclass
        exact hslot tag htag
      | opening helper path =>
        obtain ⟨start, hstart, -⟩ := exists_opening hclass
        exact hopening start hstart
      | closing name =>
        obtain ⟨lead, cs, hcs⟩ := exists_closing_mark hclass
        exact hclosing lead cs hcs.symm
    | closing lead cs hwrong =>
      obtain ⟨name, hname⟩ := classify_closing_mark lead cs
      obtain rfl := Except.ok.inj (hclass.symm.trans hname)
      obtain ⟨frames, nodes, line⟩ := p
      have hframes := h.frames
      cases frames with
      | nil => cases hadd
      | cons f frames =>
        cases blocks with
        | nil => cases hframes
        | cons block blocks =>
          obtain ⟨hhelper, -⟩ := Prod.mk.inj (List.cons.inj hframes).1
          simp only [Progress.addTag] at hadd
          split at hadd
          next heq =>
            obtain rfl := heq
            obtain ⟨stop, hstop⟩ := exists_closing hclass
            exact hwrong block rfl stop ((congrArg stop.inner hhelper.symm).trans hstop)
          · cases hadd
    | tooDeep start hdepth =>
      obtain rfl := Except.ok.inj (hclass.symm.trans (classify_opening start))
      have hopen : maxBlockDepth ≤ p.frames.length := h.length ▸ hdepth
      rw [Progress.addTag, if_pos hopen] at hadd
      cases hadd

end Tracks

theorem Begun.tracks (h : Begun blocks marks done) : ∃ p, Tracks blocks marks done p ∧
    ∀ rest, nodesOf (done ++ rest) = readFrom p rest := by
  induction h with
  | start => exact ⟨⟨[], [], 1⟩, ⟨rfl, rfl, rfl⟩, nodesOf_eq⟩
  | tag _ before hfits ih =>
    obtain ⟨p, hp, hread⟩ := ih
    obtain ⟨tag, q, hclass, hadd, hq⟩ := (hp.text before.chars).fits hfits
    refine ⟨_, hq.lines _, fun rest => ?_⟩
    have hpart := addPart_tag_eq_ok.mpr ⟨tag, q, hclass, hadd, rfl⟩
    rw [List.append_assoc, List.append_assoc, hread,
      readFrom_some (hfits.complete.splitTag_append before), hpart]
    rfl

/-- Behind the last tag, where no block is open, the text ends. -/
theorem Begun.ends (h : Begun [] marks done) (ending : Ending) :
    ∃ nodes, nodesOf (done ++ ending.chars) = .ok nodes ∧
      tagsOf nodes = marks.map fun mark => (mark.tag, lineAfter mark.before) := by
  obtain ⟨⟨frames, nodes, line⟩, ⟨-, hframes, htags⟩, hread⟩ := h.tracks
  obtain rfl : frames = [] := List.map_eq_nil_iff.mp hframes
  refine ⟨_, (hread _).trans (readFrom_ending ending), ?_⟩
  simpa [frameTags] using htags

theorem FirstFault.fails {text before : List Char} (h : FirstFault text before) :
    ∃ cause, nodesOf text = .error (cause, lineAfter before) := by
  cases h with
  | tag h run hcomplete hfaulty rest =>
    obtain ⟨p, hp, hread⟩ := h.tracks
    have htext := hp.text run.chars
    obtain ⟨cause, hcause⟩ := htext.faulty hfaulty
    refine ⟨cause, ?_⟩
    rw [List.append_assoc, hread, readFrom_some (hcomplete.splitTag_append run),
      Progress.addPart, hcause, htext.line]
    rfl
  | @unterminated blocks marks done rest h run hrest =>
    obtain ⟨p, hp, hread⟩ := h.tracks
    have hpair : splitPair '\x7b' (run.chars ++ '\x7b' :: '\x7b' :: rest) =
        some (run.chars, rest) := splitPair_append run.plain run.apart
    have hclose : splitPair '\x7d' rest = none := splitPair_eq_none_iff.mpr hrest
    have htag : splitTag (run.chars ++ '\x7b' :: '\x7b' :: rest) = none := by
      simp [splitTag, hpair, hclose]
    refine ⟨.unterminated, ?_⟩
    rw [List.append_assoc, hread, readFrom_none htag, Progress.finish, hpair, hp.line]
    simp [lineAfter, Nat.add_assoc]
  | unclosed h ending =>
    obtain ⟨⟨frames, nodes, line⟩, ⟨-, hframes, -⟩, hread⟩ := h.tracks
    have hpair : splitPair '\x7b' ending.chars = none := splitPair_eq_none_iff.mpr ending.plain
    have htag : splitTag ending.chars = none := by simp [splitTag, hpair]
    cases frames with
    | nil => cases hframes
    | cons f frames =>
      obtain ⟨-, hline⟩ := Prod.mk.inj (List.cons.inj hframes).1
      refine ⟨.unclosed f.helper, ?_⟩
      rw [hread, readFrom_none htag, Progress.finish, hpair]
      exact congrArg (fun line => Except.error (_, line)) hline

/-- Each tag that makes a node stands behind the text it is listed with. -/
theorem Begun.stands (h : Begun blocks marks done) : ∀ mark ∈ marks, ∃ inside rest,
    done = mark.before ++ (tagged inside ++ rest) ∧ classify inside = .ok mark.tag := by
  induction h with
  | start => simp
  | @tag blocks blocks' marks marks' done inside _ before hfits ih =>
    have hold : ∀ mark ∈ marks, ∃ old rest,
        done ++ before.chars ++ tagged inside = mark.before ++ (tagged old ++ rest) ∧
          classify old = .ok mark.tag := by
      intro mark hmark
      obtain ⟨old, rest, hdone, hclass⟩ := ih mark hmark
      exact ⟨old, rest ++ (before.chars ++ tagged inside), by simp [hdone], hclass⟩
    cases hfits with
    | slot blocks marks tag =>
      simp only [List.forall_mem_append, List.forall_mem_singleton]
      exact ⟨hold, tag.inner, [], by simp, classify_slot tag⟩
    | opening blocks marks start =>
      simp only [List.forall_mem_append, List.forall_mem_singleton]
      exact ⟨hold, start.inner, [], by simp, classify_opening start⟩
    | closing => exact hold

/-- The nodes of a template are on the lines on which their tags start. A text that is no template
is reported on the line of its first fault, and no template has a fault. -/
theorem read_positions (text : String) (source : Option String) :
    (∀ t, read text source = .ok t → ∃ marks done ending, Begun [] marks done ∧
      text.toList = done ++ Ending.chars ending ∧
      (∀ mark ∈ marks, ∃ inside rest, text.toList = mark.before ++ (tagged inside ++ rest) ∧
        classify inside = .ok mark.tag) ∧
      tagsOf t.nodes = marks.map fun mark => (mark.tag, lineAfter mark.before)) ∧
    (∀ e, read text source = .error e →
      ∃ before, FirstFault text.toList before ∧ e.line = lineAfter before) ∧
    ∀ before, FirstFault text.toList before →
      ∃ e, read text source = .error e ∧ e.line = lineAfter before := by
  have hfails : ∀ before, FirstFault text.toList before →
      ∃ e, read text source = .error e ∧ e.line = lineAfter before := by
    intro before hfault
    obtain ⟨cause, hcause⟩ := hfault.fails
    exact ⟨⟨cause, lineAfter before, source⟩, by rw [read, hcause], rfl⟩
  rcases Begun.start.ends_or_faults text.toList with
    ⟨marks, done, ending, h, htext⟩ | ⟨before, hfault⟩
  · obtain ⟨nodes, hnodes, htags⟩ := h.ends ending
    rw [← htext, List.nil_append] at hnodes
    have hread : read text source = .ok ⟨nodes, source⟩ := by rw [read, hnodes]
    refine ⟨fun t ht => ?_, fun e he => ?_, hfails⟩
    · obtain rfl := Except.ok.inj (hread.symm.trans ht)
      refine ⟨marks, done, ending, h, htext, fun mark hmark => ?_, htags⟩
      obtain ⟨inside, rest, hdone, hclass⟩ := h.stands mark hmark
      exact ⟨inside, rest ++ ending.chars, by simpa [hdone] using htext, hclass⟩
    · cases hread.symm.trans he
  · obtain ⟨e, he, hline⟩ := hfails before hfault
    refine ⟨fun t ht => ?_, fun e' he' => ⟨before, hfault, ?_⟩, hfails⟩
    · cases he.symm.trans ht
    · obtain rfl := Except.error.inj (he.symm.trans he')
      exact hline

namespace Sample

def shelf : String := "a\n\x7b\x7b#each\nbooks\x7d\x7d\n\x7b\x7btitle\x7d\x7d\x7b\x7b/each\x7d\x7d"

/-- The block is ended as another. -/
def mixed : String := "a\n\x7b\x7b#each books\x7d\x7d\n\x7b\x7b/if\x7d\x7d"

end Sample

theorem read_positions_shelf :
    (∃ marks done ending, Begun [] marks done ∧
      Sample.shelf.toList = done ++ Ending.chars ending ∧
      (∀ mark ∈ marks, ∃ inside rest,
        Sample.shelf.toList = mark.before ++ (tagged inside ++ rest) ∧
          classify inside = .ok mark.tag) ∧
      [(.opening .each ["books"], 2), (.slot ["title"], 4)] =
        marks.map fun mark => (mark.tag, lineAfter mark.before)) ∧
    ∃ before, FirstFault Sample.mixed.toList before ∧ 3 = lineAfter before := by
  have hshelf : (read Sample.shelf none).toOption.map (fun t => tagsOf t.nodes) =
      some [(.opening .each ["books"], 2), (.slot ["title"], 4)] := by decide +kernel
  have hmixed : (match read Sample.mixed none with
      | .error e => e.line
      | .ok _ => 0) = 3 := by decide +kernel
  obtain ⟨t, hread, htags⟩ := Option.map_eq_some_iff.mp hshelf
  have hmarks := (read_positions Sample.shelf none).1 t (Success.toOption_eq_some.mp hread)
  rw [htags] at hmarks
  refine ⟨hmarks, ?_⟩
  split at hmixed
  next e herror =>
    obtain ⟨before, hfault, hline⟩ := (read_positions Sample.mixed none).2.1 e herror
    exact ⟨before, hfault, hmixed.symm.trans hline⟩
  · cases hmixed

end ViewModel.Template
