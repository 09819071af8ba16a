import ViewModel.Proofs.Number.Numeral
import ViewModel.Value.Path

/-!
Elements of a list by name. An array of a browser has each element under its number in decimal and
nothing under any other name. A list has its elements under these names too, and under them behind
zeros.
-/

namespace ViewModel

variable {i : Nat}

theorem natText_injective : Function.Injective natText := by
  intro a b h
  have hdigits : Nat.toDigits 10 a = Nat.toDigits 10 b := by
    simpa [natText] using congrArg String.toList h
  calc
    a = Nat.ofDigitChars 10 (Nat.toDigits 10 a) 0 := Nat.ofDigitChars_ten_toDigits.symm
    _ = Nat.ofDigitChars 10 (Nat.toDigits 10 b) 0 := by rw [hdigits]
    _ = b := Nat.ofDigitChars_ten_toDigits

theorem isDigit_of_mem_natText {c : Char} (h : c ∈ (natText i).toList) : c.isDigit = true :=
  isDigit_toDigits (by simpa [natText] using h)

theorem natText_ne_empty (i : Nat) : natText i ≠ "" := by
  simp [natText, Nat.toDigits_ne_nil]

/-- The decimal text of a number, behind zeros. -/
def zeroedText (zeros i : Nat) : String := String.ofList (List.replicate zeros '0') ++ natText i

@[simp] theorem zeroedText_zero (i : Nat) : zeroedText 0 i = natText i := by
  simp [zeroedText]

theorem toList_zeroedText (zeros i : Nat) :
    (zeroedText zeros i).toList = List.replicate zeros '0' ++ Nat.toDigits 10 i := by
  simp [zeroedText, natText]

theorem zeroedText_ne_empty (zeros i : Nat) : zeroedText zeros i ≠ "" := by
  rw [Ne, ← String.toList_inj, toList_zeroedText]
  simp [Nat.toDigits_ne_nil]

theorem indexOf?_eq_some_iff {cs : List Char} : indexOf? cs = some i ↔
    (cs ≠ [] ∧ ∀ c ∈ cs, c.isDigit = true) ∧ Nat.ofDigitChars 10 cs 0 = i := by
  simp [indexOf?]

/-- Digits are a number behind zeros. -/
theorem exists_zeros {cs : List Char} (hne : cs ≠ []) (hdigits : ∀ c ∈ cs, c.isDigit = true) :
    ∃ zeros, cs = List.replicate zeros '0' ++ Nat.toDigits 10 (Nat.ofDigitChars 10 cs 0) := by
  induction cs with
  | nil => exact absurd rfl hne
  | cons c cs ih =>
    by_cases hc : c = '0'
    · subst hc
      by_cases hcs : cs = []
      · exact ⟨0, by rw [hcs]; rfl⟩
      · obtain ⟨zeros, hzeros⟩ := ih hcs fun c hc => hdigits c (List.mem_cons_of_mem _ hc)
        have hvalue : Nat.ofDigitChars 10 ('0' :: cs) 0 = Nat.ofDigitChars 10 cs 0 :=
          ofDigitChars_zeros 1 cs
        exact ⟨zeros + 1, by rw [hvalue, List.replicate_succ, List.cons_append, ← hzeros]⟩
    · exact ⟨0, (toDigits_ofDigitChars hne hdigits (by simpa using hc)).symm⟩

/-- Names are read as numbers without regard to zeros at their start. -/
theorem indexOf?_name {name : String} :
    indexOf? name.toList = some i ↔ ∃ zeros, name = zeroedText zeros i := by
  rw [indexOf?_eq_some_iff]
  constructor
  · rintro ⟨⟨hne, hdigits⟩, rfl⟩
    obtain ⟨zeros, hzeros⟩ := exists_zeros hne hdigits
    exact ⟨zeros, String.toList_inj.mp (hzeros.trans (toList_zeroedText _ _).symm)⟩
  · rintro ⟨zeros, rfl⟩
    rw [toList_zeroedText, ofDigitChars_zeros, ofDigitChars_toDigits]
    refine ⟨⟨by simp [Nat.toDigits_ne_nil], fun c hc => ?_⟩, rfl⟩
    rcases List.mem_append.mp hc with hzero | hdigit
    · rw [(List.mem_replicate.mp hzero).2]
      rfl
    · exact isDigit_toDigits hdigit

/-- The decimal text of a number has no zero that it does not need. -/
theorem natText_ne_zeroedText (zeros i j : Nat) : natText j ≠ zeroedText (zeros + 1) i := by
  intro h
  have hj : indexOf? (natText j).toList = some j :=
    indexOf?_name.mpr ⟨0, (zeroedText_zero j).symm⟩
  obtain rfl : i = j := by
    rw [indexOf?_name.mpr ⟨_, h⟩] at hj
    exact Option.some.inj hj
  have hlength := congrArg (fun s => s.toList.length) h
  simp only [toList_zeroedText, ← zeroedText_zero i, List.length_append,
    List.length_replicate] at hlength
  omega

namespace Value

variable {xs : List Value} {name : String}

theorem segment_zeroedText (xs : List Value) (zeros i : Nat) :
    (list xs).segment (zeroedText zeros i) = xs[i]?.getD null := by
  rw [segment, if_neg (zeroedText_ne_empty zeros i)]
  simp only [indexOf?_name.mpr ⟨zeros, rfl⟩]

theorem segment_natText (xs : List Value) (i : Nat) :
    (list xs).segment (natText i) = xs[i]?.getD null := by
  rw [← zeroedText_zero, segment_zeroedText]

/-- A name that is the number of no element, behind zeros or not, leads nowhere. -/
theorem exists_of_segment_ne_null (h : (list xs).segment name ≠ null) :
    ∃ zeros i, i < xs.length ∧ name = zeroedText zeros i := by
  rw [segment] at h
  split at h
  · exact absurd rfl h
  · split at h
    next i hi =>
      obtain ⟨zeros, rfl⟩ := indexOf?_name.mp hi
      refine ⟨zeros, i, ?_, rfl⟩
      by_contra hlength
      rw [List.getElem?_eq_none (Nat.le_of_not_lt hlength)] at h
      exact h rfl
    · exact absurd rfl h

/-- The list has under the name what an array has: an element under its number in decimal, and
nothing under another name. -/
structure ReadsAsArray (xs : List Value) (name : String) : Prop where
  element : ∀ i v, name = natText i → xs[i]? = some v → (list xs).segment name = v
  nothing : (∀ i, i < xs.length → name ≠ natText i) → (list xs).segment name = null

/-- In lists of that length the name stands for the element at that position, whatever it is. -/
def PointsTo (length : Nat) (name : String) (i : Nat) : Prop :=
  i < length ∧ ∀ xs : List Value, xs.length = length → some ((list xs).segment name) = xs[i]?

/-- The number of some position behind zeros that it does not need. -/
def IsZeroed (name : String) : Prop := ∃ zeros i, name = zeroedText (zeros + 1) i

theorem pointsTo_iff {length : Nat} :
    PointsTo length name i ↔ i < length ∧ ∃ zeros, name = zeroedText zeros i := by
  refine and_congr_right fun hi => ⟨fun h => ?_, ?_⟩
  · -- A list of different numbers tells the positions apart.
    let numbers : List Value := (List.range length).map fun n : Nat => int n
    have hnumber {n : Nat} (hn : n < length) : numbers[n]? = some (int n) := by
      simp [numbers, hn]
    have hsegment : (list numbers).segment name = int i :=
      Option.some.inj ((h numbers (by simp [numbers])).trans (hnumber hi))
    have hne : (list numbers).segment name ≠ null := by simp [hsegment]
    obtain ⟨zeros, j, hj, rfl⟩ := exists_of_segment_ne_null hne
    have hj : j < length := by simpa [numbers] using hj
    rw [segment_zeroedText, hnumber hj, Option.getD_some, int.injEq, Int.natCast_inj] at hsegment
    exact ⟨zeros, by rw [hsegment]⟩
  · rintro ⟨zeros, rfl⟩ xs rfl
    rw [segment_zeroedText, List.getElem?_eq_getElem hi, Option.getD_some]

/-- A list has under a name what an array has, unless that is the number of an element behind
zeros that the number does not need. Such names lead to the element as well; of the other names no
two lead to the same element. -/
theorem segment_array_iff (xs : List Value) (name : String) :
    (ReadsAsArray xs name ↔
      ∀ zeros i, name = zeroedText (zeros + 1) i → xs[i]?.getD null = null) ∧
    (∀ i, PointsTo xs.length name i ↔ i < xs.length ∧ ∃ zeros, name = zeroedText zeros i) ∧
    ∀ other i, PointsTo xs.length name i → PointsTo xs.length other i →
      name = other ∨ IsZeroed name ∨ IsZeroed other := by
  refine ⟨⟨fun h zeros i hname => ?_, fun h => ⟨?_, fun hother => ?_⟩⟩, fun _ => pointsTo_iff,
    fun other i hname hother => ?_⟩
  · subst hname
    rw [← segment_zeroedText xs (zeros + 1) i]
    exact h.nothing fun j _ hname => natText_ne_zeroedText zeros i j hname.symm
  · rintro i v rfl hv
    rw [segment_natText, hv, Option.getD_some]
  · by_contra hne
    obtain ⟨zeros, i, hi, rfl⟩ := exists_of_segment_ne_null hne
    cases zeros with
    | zero => exact hother i hi (zeroedText_zero i)
    | succ zeros => exact hne ((segment_zeroedText xs _ i).trans (h zeros i rfl))
  · obtain ⟨-, zeros, rfl⟩ := pointsTo_iff.mp hname
    obtain ⟨-, zeros', rfl⟩ := pointsTo_iff.mp hother
    cases zeros with
    | succ zeros => exact .inr (.inl ⟨zeros, i, rfl⟩)
    | zero =>
      cases zeros' with
      | succ zeros' => exact .inr (.inr ⟨zeros', i, rfl⟩)
      | zero => exact .inl rfl

/-- Behind a zero the number of an element still leads to it. -/
theorem segment_array_zeroed :
    (list [text "a", text "b"]).segment "01" = text "b" ∧
      ¬ReadsAsArray [text "a", text "b"] "01" ∧ PointsTo 2 "01" 1 ∧ PointsTo 2 "1" 1 := by
  have hname : "01" = zeroedText 1 1 := by decide
  have hsegment : (list [text "a", text "b"]).segment "01" = text "b" := by
    rw [hname, segment_zeroedText]
    rfl
  refine ⟨hsegment, fun h => ?_, ?_, ?_⟩
  · have hnull := h.nothing fun i _ => hname ▸ (natText_ne_zeroedText 0 1 i).symm
    exact absurd (hsegment.symm.trans hnull) (by simp)
  · exact pointsTo_iff.mpr ⟨by decide, 1, hname⟩
  · exact pointsTo_iff.mpr ⟨by decide, 0, (zeroedText_zero 1).symm⟩

end Value

end ViewModel
