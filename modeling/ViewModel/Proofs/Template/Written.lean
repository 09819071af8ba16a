import ViewModel.Proofs.Template.Scan
import ViewModel.Proofs.Template.Tag

/-!
The grammar of templates. A template is written as a row of tags and blocks with text between
them; reading accepts what is written so, and gives the nodes of its only derivation.
-/

namespace ViewModel.Template

/-! Derivations. -/

/-- Text behind the last tag. It may be empty. -/
structure Ending where
  chars : List Char
  plain : ¬ ['\x7b', '\x7b'] <:+: chars

/-- Tags and blocks in order, each with the text right before it. -/
inductive Items
  | none
  | slot (before : Run) (tag : Slot) (rest : Items)
  | block (before : Run) (start : Opening) (body : Items) (last : Run) (stop : Closing)
      (rest : Items)

/-- A template as it is written. -/
structure Written where
  items : Items
  ending : Ending

def Items.chars : Items → List Char
  | none => []
  | slot before tag rest => before.chars ++ (tagged tag.inner ++ rest.chars)
  | block before start body last stop rest =>
      before.chars ++ (tagged start.inner ++ (body.chars ++ (last.chars ++
        (tagged (stop.inner start.helper) ++ rest.chars))))

/-- How deep blocks stand in blocks. -/
def Items.depth : Items → Nat
  | none => 0
  | slot _ _ rest => rest.depth
  | block _ _ body _ _ rest => max (body.depth + 1) rest.depth

/-- The node of some text; empty text has none. -/
def textNodes (cs : List Char) : List Node := if cs.isEmpty then [] else [.text (String.ofList cs)]

/-- The nodes of items that start on a line. -/
def Items.nodes (line : Nat) : Items → List Node
  | none => []
  | slot before tag rest =>
      let on := line + Text.newlines before.chars
      textNodes before.chars ++ .slot tag.path.1 on :: rest.nodes (on + Text.newlines tag.inner)
  | block before start body last stop rest =>
      let on := line + Text.newlines before.chars
      let inside := on + Text.newlines start.inner
      let after := inside + Text.newlines body.chars + Text.newlines last.chars
        + Text.newlines (stop.inner start.helper)
      textNodes before.chars
        ++ .block start.helper start.path.1 on (body.nodes inside ++ textNodes last.chars)
        :: rest.nodes after

namespace Written

variable (w : Written)

def chars : List Char := w.items.chars ++ w.ending.chars

def depth : Nat := w.items.depth

def nodes : List Node := w.items.nodes 1 ++ textNodes w.ending.chars

end Written

variable {before last : Run} {tag : Slot} {start : Opening} {stop : Closing} {helper : Helper}
variable {frames : List Frame} {nodes ns : List Node} {line : Nat} {cs rest : List Char}

/-! What is written so is read. -/

theorem addText_eq (cs : List Char) : Progress.addText ⟨frames, nodes, line⟩ cs =
    ⟨frames, nodes ++ textNodes cs, line + Text.newlines cs⟩ := by
  rw [Progress.addText, textNodes]
  split <;> simp

theorem readFrom_slot : readFrom ⟨frames, nodes, line⟩
      (before.chars ++ (tagged tag.inner ++ rest)) =
    readFrom ⟨frames, nodes ++ textNodes before.chars
      ++ [.slot tag.path.1 (line + Text.newlines before.chars)],
      line + Text.newlines before.chars + Text.newlines tag.inner⟩ rest :=
  readFrom_tag before tag.not_brace (classify_slot tag) (addText_eq _) rfl

theorem readFrom_opening (hdepth : frames.length < maxBlockDepth) :
    readFrom ⟨frames, nodes, line⟩ (before.chars ++ (tagged start.inner ++ rest)) =
      readFrom ⟨⟨start.helper, start.path.1, line + Text.newlines before.chars,
          nodes ++ textNodes before.chars⟩ :: frames, [],
        line + Text.newlines before.chars + Text.newlines start.inner⟩ rest :=
  readFrom_tag before start.not_brace (classify_opening start) (addText_eq _)
    (if_neg (Nat.not_le.mpr hdepth))

theorem readFrom_closing {f : Frame} : readFrom ⟨f :: frames, nodes, line⟩
      (last.chars ++ (tagged (stop.inner f.helper) ++ rest)) =
    readFrom ⟨frames, f.before ++ [.block f.helper f.path f.line (nodes ++ textNodes last.chars)],
      line + Text.newlines last.chars + Text.newlines (stop.inner f.helper)⟩ rest := by
  have hclose : Progress.addTag ⟨f :: frames, nodes ++ textNodes last.chars,
      line + Text.newlines last.chars⟩ (.closing f.helper.name) =
      .ok ⟨frames, f.before ++ [.block f.helper f.path f.line (nodes ++ textNodes last.chars)],
        line + Text.newlines last.chars⟩ := if_pos rfl
  exact readFrom_tag last (stop.not_brace _) (classify_closing stop f.helper) (addText_eq _) hclose

/-- Reading over items adds their nodes and leaves the blocks around them as they are. -/
theorem readFrom_items (items : Items) (hdepth : frames.length + items.depth ≤ maxBlockDepth) :
    readFrom ⟨frames, nodes, line⟩ (items.chars ++ rest) =
      readFrom ⟨frames, nodes ++ items.nodes line, line + Text.newlines items.chars⟩ rest := by
  induction items generalizing frames nodes line rest with
  | none => simp [Items.chars, Items.nodes, Text.newlines]
  | slot before tag items ih =>
    simp only [Items.chars, List.append_assoc]
    rw [readFrom_slot, ih hdepth]
    simp [Items.nodes, Nat.add_assoc]
  | block before start body last stop items ihbody ihitems =>
    simp only [Items.depth] at hdepth
    have houter : frames.length < maxBlockDepth := by omega
    have hbody : frames.length + 1 + body.depth ≤ maxBlockDepth := by omega
    have hitems : frames.length + items.depth ≤ maxBlockDepth := by omega
    simp only [Items.chars, List.append_assoc]
    rw [readFrom_opening houter, ihbody, readFrom_closing, ihitems hitems]
    · simp [Items.nodes, Nat.add_assoc]
    · exact hbody

theorem readFrom_ending (e : Ending) :
    readFrom ⟨[], nodes, line⟩ e.chars = .ok (nodes ++ textNodes e.chars) := by
  have hpair : splitPair '\x7b' e.chars = none := splitPair_eq_none_iff.mpr e.plain
  have htag : splitTag e.chars = none := by simp [splitTag, hpair]
  rw [readFrom_none htag, Progress.finish, hpair, addText_eq]

theorem nodesOf_written (w : Written) (hdepth : w.depth ≤ maxBlockDepth) :
    nodesOf w.chars = .ok w.nodes := by
  have hitems : ([] : List Frame).length + w.items.depth ≤ maxBlockDepth := by
    simpa [Written.depth] using hdepth
  rw [nodesOf_eq, Written.chars, readFrom_items w.items hitems, readFrom_ending]
  rfl

/-! What is read is written so. -/

/-- How the rest of a template is written, if it is read with these blocks open and these nodes
before it: the open blocks are closed, innermost first. -/
def Remains : List Frame → List Node → Nat → List Char → List Node → Prop
  | [], nodes, line, cs, ns => ∃ (items : Items) (e : Ending), items.depth ≤ maxBlockDepth ∧
      cs = items.chars ++ e.chars ∧ ns = nodes ++ items.nodes line ++ textNodes e.chars
  | f :: frames, nodes, line, cs, ns => ∃ (items : Items) (last : Run) (stop : Closing)
      (rest : List Char), frames.length + 1 + items.depth ≤ maxBlockDepth ∧
      cs = items.chars ++ (last.chars ++ (tagged (stop.inner f.helper) ++ rest)) ∧
      Remains frames
        (f.before ++ [.block f.helper f.path f.line
          (nodes ++ items.nodes line ++ textNodes last.chars)])
        (line + Text.newlines items.chars + Text.newlines last.chars
          + Text.newlines (stop.inner f.helper)) rest ns

theorem Remains.slot (h : Remains frames (nodes ++ textNodes before.chars
      ++ [.slot tag.path.1 (line + Text.newlines before.chars)])
      (line + Text.newlines before.chars + Text.newlines tag.inner) cs ns) :
    Remains frames nodes line (before.chars ++ (tagged tag.inner ++ cs)) ns := by
  cases frames with
  | nil =>
    obtain ⟨items, e, hdepth, rfl, rfl⟩ := h
    exact ⟨.slot before tag items, e, hdepth, by simp [Items.chars], by simp [Items.nodes]⟩
  | cons f frames =>
    obtain ⟨items, last, stop, rest, hdepth, rfl, h⟩ := h
    refine ⟨.slot before tag items, last, stop, rest, hdepth, by simp [Items.chars], ?_⟩
    simpa [Items.chars, Items.nodes, Nat.add_assoc] using h

theorem Remains.block (hopen : frames.length < maxBlockDepth)
    (h : Remains (⟨start.helper, start.path.1, line + Text.newlines before.chars,
        nodes ++ textNodes before.chars⟩ :: frames) []
      (line + Text.newlines before.chars + Text.newlines start.inner) cs ns) :
    Remains frames nodes line (before.chars ++ (tagged start.inner ++ cs)) ns := by
  obtain ⟨body, last, stop, rest, hbody, rfl, h⟩ := h
  cases frames with
  | nil =>
    obtain ⟨items, e, hdepth, rfl, rfl⟩ := h
    refine ⟨.block before start body last stop items, e, ?_, by simp [Items.chars],
      by simp [Items.nodes]⟩
    simp only [Items.depth]
    simp only [List.length_nil] at hbody
    omega
  | cons f frames =>
    obtain ⟨items, last', stop', rest, hdepth, rfl, h⟩ := h
    refine ⟨.block before start body last stop items, last', stop', rest, ?_, by simp [Items.chars],
      ?_⟩
    · simp only [Items.depth]
      simp only [List.length_cons] at hbody
      omega
    · simpa [Items.chars, Items.nodes, Nat.add_assoc] using h

theorem Remains.closing {f : Frame}
    (hopen : frames.length < maxBlockDepth)
    (h : Remains frames (f.before ++ [.block f.helper f.path f.line
        (nodes ++ textNodes last.chars)])
      (line + Text.newlines last.chars + Text.newlines (stop.inner f.helper)) cs ns) :
    Remains (f :: frames) nodes line (last.chars ++ (tagged (stop.inner f.helper) ++ cs)) ns :=
  ⟨.none, last, stop, cs, hopen, rfl, by simpa [Items.nodes, Items.chars, Text.newlines] using h⟩

/-- Induction on the length of the rest: each tag leaves a shorter one. -/
theorem remains_of_readFrom (hopen : frames.length ≤ maxBlockDepth)
    (h : readFrom ⟨frames, nodes, line⟩ cs = .ok ns) : Remains frames nodes line cs ns := by
  induction hlength : cs.length using Nat.strong_induction_on generalizing frames nodes line cs with
  | _ n ih =>
  cases htag : splitTag cs with
  | none =>
    rw [readFrom_none htag, Progress.finish] at h
    split at h
    · cases h
    next hpair =>
      cases frames with
      | cons f frames => cases h
      | nil =>
        rw [addText_eq] at h
        obtain rfl := Except.ok.inj h
        exact ⟨.none, ⟨cs, splitPair_eq_none_iff.mp hpair⟩, Nat.zero_le _, rfl,
          by simp [Items.nodes]⟩
  | some found =>
    obtain ⟨_, inside, rest⟩ := found
    rw [readFrom_some htag, addText_eq] at h
    obtain ⟨before, rfl, rfl⟩ := exists_run htag
    obtain ⟨q, hq, hrest⟩ := Success.bind_eq_ok.mp h
    obtain ⟨tag, r, hclass, hadd, rfl⟩ := addPart_tag_eq_ok.mp hq
    have hshorter : rest.length < n := by
      simp only [← hlength, tagged, List.length_append, List.length_cons]
      omega
    cases tag with
    | slot path =>
      obtain ⟨slot, rfl, rfl⟩ := exists_slot hclass
      obtain rfl := Except.ok.inj hadd
      exact Remains.slot (ih _ hshorter hopen hrest rfl)
    | opening helper path =>
      obtain ⟨start, rfl, rfl, rfl⟩ := exists_opening hclass
      rw [Progress.addTag] at hadd
      split at hadd
      · cases hadd
      next hdepth =>
        obtain rfl := Except.ok.inj hadd
        have hlt : frames.length < maxBlockDepth := Nat.not_le.mp hdepth
        exact Remains.block hlt (ih _ hshorter hlt hrest rfl)
    | closing name =>
      cases frames with
      | nil => cases hadd
      | cons f frames =>
        simp only [Progress.addTag] at hadd
        split at hadd
        next hname =>
          obtain rfl := hname
          obtain ⟨stop, rfl⟩ := exists_closing hclass
          obtain rfl := Except.ok.inj hadd
          exact Remains.closing hopen (ih _ hshorter (Nat.le_of_lt hopen) hrest rfl)
        · cases hadd

/-! What is written is written in one way only. -/

/-- The next tag, where there is one, ends a block. -/
def Ends (cs : List Char) : Prop := ∀ before inside after tag,
  splitTag cs = some (before, inside, after) → classify inside = .ok tag →
    ∃ name, tag = .closing name

theorem Ends.not_slot : ¬ Ends (before.chars ++ (tagged tag.inner ++ rest)) := by
  intro h
  obtain ⟨name, hname⟩ := h _ _ _ _ (splitTag_append before tag.not_brace) (classify_slot tag)
  cases hname

theorem Ends.not_opening : ¬ Ends (before.chars ++ (tagged start.inner ++ rest)) := by
  intro h
  obtain ⟨name, hname⟩ :=
    h _ _ _ _ (splitTag_append before start.not_brace) (classify_opening start)
  cases hname

theorem Ends.closing : Ends (last.chars ++ (tagged (stop.inner helper) ++ rest)) := by
  intro _ _ _ found htag hclass
  have hstop : splitTag (last.chars ++ (tagged (stop.inner helper) ++ rest)) =
      some (last.chars, stop.inner helper, rest) := splitTag_append last (stop.not_brace helper)
  obtain ⟨-, he⟩ := Prod.mk.inj (Option.some.inj (hstop.symm.trans htag))
  obtain ⟨rfl, -⟩ := Prod.mk.inj he
  exact ⟨_, Except.ok.inj (hclass.symm.trans (classify_closing stop helper))⟩

theorem Ends.ending (e : Ending) : Ends e.chars := by
  intro _ _ _ _ htag _
  have hpair : splitPair '\x7b' e.chars = none := splitPair_eq_none_iff.mpr e.plain
  simp [splitTag, hpair] at htag

theorem tagged_inj {before' : Run} {inside inside' rest' : List Char} (hbrace : '\x7d' ∉ inside)
    (hbrace' : '\x7d' ∉ inside')
    (h : before.chars ++ (tagged inside ++ rest) = before'.chars ++ (tagged inside' ++ rest')) :
    before = before' ∧ inside = inside' ∧ rest = rest' := by
  have htag := (splitTag_append before hbrace).symm.trans
    ((congrArg splitTag h).trans (splitTag_append before' hbrace'))
  obtain ⟨hbefore, he⟩ := Prod.mk.inj (Option.some.inj htag)
  obtain ⟨hinside, hrest⟩ := Prod.mk.inj he
  obtain ⟨chars, _, _⟩ := before
  obtain ⟨chars', _, _⟩ := before'
  obtain rfl : chars = chars' := hbefore
  exact ⟨rfl, hinside, hrest⟩

theorem Items.eq_none {items : Items} {rest' : List Char} (hrest : Ends rest)
    (h : items.chars ++ rest' = rest) : items = none := by
  subst h
  cases items with
  | none => rfl
  | slot before tag items =>
    simp only [chars, List.append_assoc] at hrest
    exact absurd hrest Ends.not_slot
  | block before start body last stop items =>
    simp only [chars, List.append_assoc] at hrest
    exact absurd hrest Ends.not_opening

/-- The next tag tells which item comes next, or that none does. -/
theorem Items.chars_inj {items items' : Items} {rest rest' : List Char} (hrest : Ends rest)
    (hrest' : Ends rest') (h : items.chars ++ rest = items'.chars ++ rest') :
    items = items' ∧ rest = rest' := by
  induction items generalizing items' rest rest' with
  | none =>
    obtain rfl := eq_none hrest h.symm
    exact ⟨rfl, h⟩
  | slot before tag items ih =>
    cases items' with
    | none => cases eq_none hrest' h
    | slot before' tag' items' =>
      simp only [chars, List.append_assoc] at h
      obtain ⟨rfl, htag, hafter⟩ := tagged_inj tag.not_brace tag'.not_brace h
      obtain rfl := Slot.inner_injective htag
      obtain ⟨rfl, hends⟩ := ih hrest hrest' hafter
      exact ⟨rfl, hends⟩
    | block before' start' =>
      simp only [chars, List.append_assoc] at h
      obtain ⟨-, htag, -⟩ := tagged_inj tag.not_brace start'.not_brace h
      have hread := (classify_slot tag).symm.trans
        ((congrArg classify htag).trans (classify_opening start'))
      cases hread
  | block before start body last stop items ihbody ihitems =>
    cases items' with
    | none => cases eq_none hrest' h
    | slot before' tag' =>
      simp only [chars, List.append_assoc] at h
      obtain ⟨-, htag, -⟩ := tagged_inj start.not_brace tag'.not_brace h
      have hread := (classify_opening start).symm.trans
        ((congrArg classify htag).trans (classify_slot tag'))
      cases hread
    | block before' start' body' last' stop' items' =>
      simp only [chars, List.append_assoc] at h
      obtain ⟨rfl, hstart, hinside⟩ := tagged_inj start.not_brace start'.not_brace h
      obtain rfl := Opening.inner_injective hstart
      obtain ⟨rfl, hlast⟩ := ihbody Ends.closing Ends.closing hinside
      obtain ⟨rfl, hstop, hafter⟩ := tagged_inj (stop.not_brace _) (stop'.not_brace _) hlast
      obtain rfl := Closing.inner_injective _ hstop
      obtain ⟨rfl, hends⟩ := ihitems hrest hrest' hafter
      exact ⟨rfl, hends⟩

theorem Written.chars_injective : Function.Injective Written.chars := by
  intro w w' h
  obtain ⟨hitems, hending⟩ := Items.chars_inj (Ends.ending _) (Ends.ending _) h
  obtain ⟨items, ⟨chars, _⟩⟩ := w
  obtain ⟨items', ⟨chars', _⟩⟩ := w'
  obtain rfl : items = items' := hitems
  obtain rfl : chars = chars' := hending
  rfl

/-- A text is a template if and only if it is written as one, with blocks not too deep; its nodes
are those of its derivation. No text is written in two ways. -/
theorem read_accepts_written (text : String) (source : Option String) :
    (∀ t, read text source = .ok t ↔ ∃ w : Written, w.depth ≤ maxBlockDepth ∧
      w.chars = text.toList ∧ t = ⟨w.nodes, source⟩) ∧ Function.Injective Written.chars := by
  refine ⟨fun t => ⟨fun h => ?_, ?_⟩, Written.chars_injective⟩
  · rw [read] at h
    split at h
    next ns hns =>
      obtain rfl := Except.ok.inj h
      obtain ⟨items, e, hdepth, htext, rfl⟩ := remains_of_readFrom (Nat.zero_le _) hns
      exact ⟨⟨items, e⟩, hdepth, htext.symm, by simp [Written.nodes]⟩
    · cases h
  · rintro ⟨w, hdepth, htext, rfl⟩
    rw [read, ← htext, nodesOf_written w hdepth]

end ViewModel.Template
