import Mathlib.Data.List.Infix
import ViewModel.Value.Display

/-!
Escaped text has no mark-up of its own: only entities are in it, and the text can be had back from
them.
-/

namespace ViewModel.Markup

/-- What stands for each character that markup gives a meaning. -/
def entities : List (List Char × Char) :=
  [("&amp;".toList, '&'), ("&lt;".toList, '<'), ("&gt;".toList, '>'), ("&quot;".toList, '"'),
    ("&#x27;".toList, '\''), ("&#x60;".toList, '\x60'), ("&#x3D;".toList, '=')]

/-- The characters that start or end tags and attributes. -/
def delimiters : List Char := ['<', '>', '"', '\'', '\x60', '=']

/-- The character of the entity that a text starts with, and the rest. -/
def splitEntity? (cs : List Char) : Option (Char × List Char) :=
  (entities.find? fun e => e.1.isPrefixOf cs).map fun e => (e.2, cs.drop e.1.length)

theorem entities_length : ∀ e ∈ entities, 4 ≤ e.1.length := by decide

theorem length_of_splitEntity? {cs rest : List Char} {c : Char}
    (h : splitEntity? cs = some (c, rest)) : rest.length < cs.length := by
  obtain ⟨e, he, heq⟩ := Option.map_eq_some_iff.mp h
  obtain ⟨-, rfl⟩ := Prod.mk.inj heq
  have hlength := entities_length e (List.mem_of_find?_eq_some he)
  have hle : e.1.length ≤ cs.length :=
    (List.isPrefixOf_iff_prefix.mp (by simpa using List.find?_some he)).length_le
  rw [List.length_drop]
  omega

/-- A text with each entity replaced by its character, from left to right. -/
def unescapeChars (cs : List Char) : List Char :=
  match _h : splitEntity? cs with
  | some (c, rest) => c :: unescapeChars rest
  | none =>
      match cs with
      | [] => []
      | c :: rest => c :: unescapeChars rest
termination_by cs.length
decreasing_by
  · exact length_of_splitEntity? _h
  · exact Nat.lt_succ_self _

def unescape (s : String) : String := String.ofList (unescapeChars s.toList)

/-- A character is escaped by its entity, or it has none and stays. -/
theorem escapeChar_cases (c : Char) :
    (escapeChar c, c) ∈ entities ∨ escapeChar c = [c] ∧ c ∉ entities.map Prod.snd := by
  unfold escapeChar
  split <;> simp_all [entities]

/-- An entity is told by what a text starts with. -/
theorem splitEntity?_append (rest : List Char) :
    ∀ e ∈ entities, splitEntity? (e.1 ++ rest) = some (e.2, rest) := by
  simp only [entities, List.forall_mem_cons]
  refine ⟨rfl, rfl, rfl, rfl, rfl, rfl, rfl, ?_⟩
  simp

theorem splitEntity?_cons {c : Char} (h : c ≠ '&') (rest : List Char) :
    splitEntity? (c :: rest) = none := by
  simp [splitEntity?, entities, h.symm]

theorem unescapeChars_entity {e : List Char × Char} (he : e ∈ entities) (rest : List Char) :
    unescapeChars (e.1 ++ rest) = e.2 :: unescapeChars rest := by
  rw [unescapeChars]
  split
  next h =>
    obtain ⟨rfl, rfl⟩ := Prod.mk.inj (Option.some.inj ((splitEntity?_append rest e he).symm.trans h))
    rfl
  next h => simp [splitEntity?_append rest e he] at h

theorem unescapeChars_cons {c : Char} (h : c ≠ '&') (rest : List Char) :
    unescapeChars (c :: rest) = c :: unescapeChars rest := by
  rw [unescapeChars]
  split
  next hsplit => simp [splitEntity?_cons h] at hsplit
  next => rfl

theorem unescapeChars_escape (cs : List Char) : unescapeChars (cs.flatMap escapeChar) = cs := by
  induction cs with
  | nil => rw [List.flatMap_nil, unescapeChars]; rfl
  | cons c cs ih =>
    rw [List.flatMap_cons]
    rcases escapeChar_cases c with hentity | ⟨hself, hother⟩
    · rw [unescapeChars_entity hentity, ih]
    · have hc : c ≠ '&' := by
        rintro rfl
        exact hother (by decide)
      rw [hself, List.singleton_append, unescapeChars_cons hc, ih]

/-- Escaping loses nothing. -/
theorem unescape_escape (s : String) : unescape (escape s) = s := by
  rw [unescape, escape, String.toList_ofList, unescapeChars_escape, String.ofList_toList]

/-- No delimiter comes out of escaping. -/
theorem not_mem_escape {c : Char} (hc : c ∈ delimiters) (s : String) : c ∉ (escape s).toList := by
  have hentities : ∀ e ∈ entities, delimiters.all (· ∉ e.1) := by decide
  have hdelimiters : delimiters ⊆ entities.map Prod.snd := by decide
  rw [escape, String.toList_ofList, List.mem_flatMap]
  rintro ⟨d, -, hmem⟩
  rcases escapeChar_cases d with hentity | ⟨hself, hother⟩
  · exact of_decide_eq_true (List.all_eq_true.mp (hentities _ hentity) c hc) hmem
  · rw [hself, List.mem_singleton] at hmem
    exact hother (hmem ▸ hdelimiters hc)

theorem ampersand_starts_entity {cs after : List Char}
    (h : '&' :: after <:+ cs.flatMap escapeChar) : ∃ e ∈ entities, e.1 <+: '&' :: after := by
  have hhead : ∀ e ∈ entities, ∀ t ∈ e.1.tails, t.head? = some '&' → t = e.1 := by decide
  induction cs with
  | nil => simp at h
  | cons c cs ih =>
    rw [List.flatMap_cons] at h
    obtain ⟨before, hbefore⟩ := h
    rcases List.append_eq_append_iff.mp hbefore with ⟨t, hescaped, hrest⟩ | ⟨t, -, hrest⟩
    · -- the ampersand is in what stands for `c`, or the first one after it
      cases t with
      | nil => exact ih ⟨[], hrest⟩
      | cons a t =>
        obtain ⟨rfl, rfl⟩ := List.cons.inj hrest
        rcases escapeChar_cases c with hentity | ⟨hself, hother⟩
        · have htail := hhead _ hentity ('&' :: t)
            ((List.mem_tails _ _).mpr ⟨before, hescaped.symm⟩) rfl
          exact ⟨_, hentity, cs.flatMap escapeChar, congrArg (· ++ _) htail.symm⟩
        · have hc : '&' ∈ [c] := hself ▸ hescaped ▸ List.mem_append_right _ List.mem_cons_self
          exact absurd (List.mem_singleton.mp hc ▸ by decide) hother
    · exact ih ⟨t, hrest.symm⟩

end ViewModel.Markup
