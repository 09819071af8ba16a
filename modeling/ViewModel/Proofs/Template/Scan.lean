import Mathlib.Data.List.Infix
import ViewModel.Proofs.Success
import ViewModel.Template.Read

/-!
How a template is cut into text and tags: at the first two opening braces in a row, and after
them at the first two closing ones. Reading goes from tag to tag.
-/

namespace ViewModel.Template

variable {c : Char} {cs u w before inside after : List Char} {p q : Progress}

theorem pair_infix_cons_cons {a b : Char} {rest : List Char} :
    [c, c] <:+: a :: b :: rest ↔ (a = c ∧ b = c) ∨ [c, c] <:+: b :: rest := by
  rw [List.infix_cons_iff, List.cons_prefix_cons, List.cons_prefix_cons]
  simp [eq_comm]

theorem splitPair_eq_none_iff : splitPair c cs = none ↔ ¬ [c, c] <:+: cs := by
  fun_induction splitPair c cs with
  | case1 => simp
  | case2 a => simp [List.infix_cons_iff]
  | case3 a b rest hab => simp [pair_infix_cons_cons, hab]
  | case4 a b rest hne ih =>
    rw [Option.map_eq_none_iff, ih, pair_infix_cons_cons]
    tauto

/-- The first pair of a character stands behind text that has none and does not end in the
character. -/
theorem splitPair_before (h : splitPair c cs = some (u, w)) :
    ¬ [c, c] <:+: u ∧ u.getLast? ≠ some c := by
  fun_induction splitPair c cs generalizing u with
  | case1 => cases h
  | case2 => cases h
  | case3 rest =>
    obtain ⟨rfl, rfl⟩ := Prod.mk.inj (Option.some.inj h)
    simp
  | case4 a b rest hne ih =>
    obtain ⟨⟨v, w⟩, hv, he⟩ := Option.map_eq_some_iff.mp h
    obtain ⟨rfl, rfl⟩ := Prod.mk.inj he
    obtain ⟨hplain, hlast⟩ := ih hv
    have hrest : b :: rest = v ++ c :: c :: w := splitPair_eq hv
    cases v with
    | nil =>
      obtain ⟨rfl, -⟩ := List.cons.inj hrest
      have ha : a ≠ b := fun ha => hne ⟨ha, rfl⟩
      simp [List.infix_cons_iff, ha]
    | cons x v =>
      obtain ⟨rfl, -⟩ := List.cons.inj hrest
      refine ⟨fun hpair => ?_, by simpa using hlast⟩
      rcases pair_infix_cons_cons.mp hpair with hab | hpair
      · exact hne hab
      · exact hplain hpair

theorem splitPair_append (hplain : ¬ [c, c] <:+: u) (hlast : u.getLast? ≠ some c) :
    splitPair c (u ++ c :: c :: w) = some (u, w) := by
  induction u with
  | nil => simp [splitPair]
  | cons a u ih =>
    cases u with
    | nil =>
      have ha : a ≠ c := by simpa using hlast
      simp [splitPair, ha]
    | cons b u =>
      have hab : ¬ (a = c ∧ b = c) := fun hab => hplain (pair_infix_cons_cons.mpr (.inl hab))
      have hrest := ih (fun h => hplain (pair_infix_cons_cons.mpr (.inr h))) (by simpa using hlast)
      rw [List.cons_append, List.cons_append, splitPair, if_neg hab, ← List.cons_append, hrest]
      rfl

/-- Text right before a tag. It may be empty. -/
structure Run where
  chars : List Char
  plain : ¬ ['\x7b', '\x7b'] <:+: chars
  apart : chars.getLast? ≠ some '\x7b'

/-- A tag with its braces. -/
def tagged (inside : List Char) : List Char := '\x7b' :: '\x7b' :: (inside ++ ['\x7d', '\x7d'])

@[simp] theorem newlines_tagged (inside : List Char) :
    Text.newlines (tagged inside) = Text.newlines inside := by
  simp [Text.newlines, tagged]

/-- What stands inside a tag: the tag ends at the first two closing braces in a row. -/
structure Complete (inside : List Char) : Prop where
  plain : ¬ ['\x7d', '\x7d'] <:+: inside
  apart : inside.getLast? ≠ some '\x7d'

theorem Complete.of_not_mem (h : '\x7d' ∉ inside) : Complete inside :=
  ⟨fun hpair => h (hpair.subset List.mem_cons_self), fun hlast => h (List.mem_of_getLast? hlast)⟩

theorem Complete.splitTag_append (h : Complete inside) (r : Run) :
    splitTag (r.chars ++ (tagged inside ++ after)) = some (r.chars, inside, after) := by
  have hopen := splitPair_append (w := inside ++ '\x7d' :: '\x7d' :: after) r.plain r.apart
  have hclose := splitPair_append (w := after) h.plain h.apart
  simp [splitTag, tagged, hopen, hclose]

theorem splitTag_append (r : Run) (h : '\x7d' ∉ inside) :
    splitTag (r.chars ++ (tagged inside ++ after)) = some (r.chars, inside, after) :=
  (Complete.of_not_mem h).splitTag_append r

/-- The inside of the tag that is found. -/
theorem splitTag_complete (h : splitTag cs = some (before, inside, after)) : Complete inside := by
  simp only [splitTag, Option.bind_eq_bind, Option.bind_eq_some_iff] at h
  obtain ⟨_, -, ⟨v, w⟩, hv, he⟩ := h
  obtain ⟨-, he⟩ := Prod.mk.inj (Option.some.inj he)
  obtain ⟨rfl, -⟩ := Prod.mk.inj he
  obtain ⟨hplain, hapart⟩ := splitPair_before hv
  exact ⟨hplain, hapart⟩

theorem exists_run (h : splitTag cs = some (before, inside, after)) :
    ∃ r : Run, r.chars = before ∧ cs = r.chars ++ (tagged inside ++ after) := by
  have hcs := splitTag_eq h
  simp only [splitTag, Option.bind_eq_bind, Option.bind_eq_some_iff] at h
  obtain ⟨⟨u, rest⟩, hu, _, -, he⟩ := h
  obtain ⟨rfl, -⟩ := Prod.mk.inj (Option.some.inj he)
  obtain ⟨hplain, hapart⟩ := splitPair_before hu
  exact ⟨⟨u, hplain, hapart⟩, rfl, by simp [hcs, tagged]⟩

/-- Reads the rest of a template. -/
def readFrom (p : Progress) (cs : List Char) : Except Located (List Node) := do
  let q ← (parts cs).1.foldlM Progress.addPart p
  q.finish (parts cs).2

theorem nodesOf_eq (cs : List Char) : nodesOf cs = readFrom ⟨[], [], 1⟩ cs := rfl

theorem readFrom_none (h : splitTag cs = none) : readFrom p cs = p.finish cs := by
  have hparts : parts cs = ([], cs) := by
    rw [parts]
    split
    · rfl
    next hsome => simp [h] at hsome
  rw [readFrom, hparts]
  rfl

theorem readFrom_some (h : splitTag cs = some (before, inside, after)) : readFrom p cs =
    (p.addText before).addPart (.tag inside) >>= fun q => readFrom q after := by
  have hparts : parts cs = (.text before :: .tag inside :: (parts after).1, (parts after).2) := by
    rw [parts]
    split
    next hnone => simp [h] at hnone
    next hsome =>
      obtain ⟨rfl, he⟩ := Prod.mk.inj (Option.some.inj (h.symm.trans hsome))
      obtain ⟨rfl, rfl⟩ := Prod.mk.inj he
      rfl
  rw [readFrom, hparts]
  simp only [List.foldlM_cons, bind_assoc]
  rfl

/-- What a tag adds, and the lines it takes. -/
theorem addPart_tag_eq_ok : p.addPart (.tag inside) = .ok q ↔ ∃ tag r, classify inside = .ok tag ∧
    p.addTag tag = .ok r ∧ q = { r with line := r.line + Text.newlines inside } := by
  rw [Progress.addPart]
  constructor
  · intro h
    split at h
    next r hr =>
      obtain ⟨tag, htag, hadd⟩ := Success.bind_eq_ok.mp hr
      exact ⟨tag, r, htag, hadd, (Except.ok.inj h).symm⟩
    · cases h
  · rintro ⟨tag, r, htag, hadd, rfl⟩
    rw [Success.bind_of_ok htag hadd]

/-- Reading over a tag that is understood. -/
theorem readFrom_tag {r : Progress} {rest : List Char} {tag : Tag} (before : Run)
    (hbrace : '\x7d' ∉ inside) (htag : classify inside = .ok tag)
    (htext : p.addText before.chars = r) (hadd : r.addTag tag = .ok q) :
    readFrom p (before.chars ++ (tagged inside ++ rest)) =
      readFrom { q with line := q.line + Text.newlines inside } rest := by
  have hpart := addPart_tag_eq_ok.mpr ⟨tag, q, htag, hadd, rfl⟩
  rw [readFrom_some (splitTag_append before hbrace), htext, hpart]
  rfl

end ViewModel.Template
