import ViewModel.Build.Hint
import ViewModel.Proofs.Source.Subscripts
import ViewModel.Proofs.Target.Generated

/-!
A printed type tells which type it is. In C# and TypeScript the end of the text tells what stands
around the rest, a sequence or a null. A Python hint is a name in the brackets of others, which is
read back as the type that it was printed from, if no more than 200 brackets are nested and the
names of classes are in their normal form.
-/

namespace ViewModel.TypeRef

open Source.Scanner (isIdentifier)

/-- What stands around a type. -/
inductive Wrapper
  | sequence
  | nullable
  deriving DecidableEq

def wrapper? : TypeRef → Option Wrapper
  | sequence _ => some .sequence
  | nullable _ => some .nullable
  | _ => none

/-- The classes of the type are named by identifiers other than these words. -/
def Named (words : List String) (t : TypeRef) : Prop :=
  ∀ name ∈ t.classes, isIdentifier name.toList = true ∧ name ∉ words

/-- The names of the classes are in the normal form in which names are read. -/
def Normal (t : TypeRef) : Prop := ∀ name ∈ t.classes, Text.normalize name = name

/-- The type with both kinds of numbers taken for one. -/
def numbersMerged : TypeRef → TypeRef
  | primitive .float => integer
  | sequence t => sequence t.numbersMerged
  | nullable t => nullable t.numbersMerged
  | t => t

variable {t u : TypeRef} {s : String} {words : List String}

theorem formed_of_isProper (ht : t.isProper = true) : t.Formed t.classes := by
  induction t with
  | unresolved => cases ht
  | primitive kind => exact .primitive kind
  | reference c => exact .reference (List.mem_singleton_self c)
  | sequence t ih => exact .sequence (ih ht)
  | nullable t ih =>
    obtain ⟨ht, hnull⟩ := Bool.and_eq_true_iff.mp ht
    exact .nullable (ih ht) (by simpa using hnull)

/-- An identifier ends with a character of words, and has nothing else in it. -/
theorem getLast?_of_isIdentifier (h : isIdentifier s.toList = true) :
    ∃ c, s.toList.getLast? = some c ∧ Source.isWordPart c = true := by
  obtain ⟨c, rest, hcs, -, hparts⟩ := Source.Scanner.word_of_isIdentifier h
  have hne : s.toList ≠ [] := by simp [hcs]
  exact ⟨_, List.getLast?_eq_some_getLast hne, hparts _ (List.getLast_mem hne)⟩

/-- What is put behind a text ends the whole. -/
theorem getLast?_append_text (before after : String) {c : Char}
    (h : after.toList.getLast? = some c) : (before ++ after).toList.getLast? = some c := by
  rw [String.toList_append, List.getLast?_append, h]
  rfl

/-- What lets the text of a type tell which one it is, up to what is merged: it shows what stands
around the rest, which can be taken away, and no class is written like a primitive. -/
structure Distinguishes (print : TypeRef → Except PrintError String) (words : List String)
    (merge : TypeRef → TypeRef) : Prop where
  wrapper_eq : ∀ {t u s}, t.Named words → u.Named words → print t = .ok s → print u = .ok s →
    t.wrapper? = u.wrapper?
  unresolved_ne : ∀ {s}, print unresolved ≠ .ok s
  primitive_eq : ∀ {kind kind'}, print (primitive kind) = print (primitive kind') →
    merge (primitive kind) = merge (primitive kind')
  primitive_mem : ∀ {kind s}, print (primitive kind) = .ok s → s ∈ words
  reference_eq : ∀ c, print (reference c) = .ok c
  sequence_ok : ∀ {t u s}, t.Named words → u.Named words → print (sequence t) = .ok s →
    print (sequence u) = .ok s → ∃ inner, print t = .ok inner ∧ print u = .ok inner
  nullable_ok : ∀ {t u s}, t.Named words → u.Named words → print (nullable t) = .ok s →
    print (nullable u) = .ok s → ∃ inner, print t = .ok inner ∧ print u = .ok inner
  merge_sequence : ∀ t, merge (sequence t) = sequence (merge t)
  merge_nullable : ∀ t, merge (nullable t) = nullable (merge t)

theorem Distinguishes.merge_eq {print : TypeRef → Except PrintError String}
    {merge : TypeRef → TypeRef} (hp : Distinguishes print words merge) (ht : t.Named words)
    (hu : u.Named words) (h : print t = .ok s) (h' : print u = .ok s) : merge t = merge u := by
  induction t generalizing u s with
  | unresolved => exact absurd h hp.unresolved_ne
  | primitive kind =>
    cases u with
    | unresolved => exact absurd h' hp.unresolved_ne
    | primitive kind' => exact hp.primitive_eq (h.trans h'.symm)
    | reference c =>
      obtain rfl := Except.ok.inj ((hp.reference_eq c).symm.trans h')
      exact absurd (hp.primitive_mem h) (hu c (List.mem_singleton_self c)).2
    | sequence | nullable => cases hp.wrapper_eq ht hu h h'
  | reference c =>
    obtain rfl := Except.ok.inj ((hp.reference_eq c).symm.trans h)
    cases u with
    | unresolved => exact absurd h' hp.unresolved_ne
    | primitive kind => exact absurd (hp.primitive_mem h') (ht c (List.mem_singleton_self c)).2
    | reference c' => rw [Except.ok.inj ((hp.reference_eq c').symm.trans h')]
    | sequence | nullable => cases hp.wrapper_eq ht hu h h'
  | sequence t ih =>
    cases u with
    | sequence u =>
      obtain ⟨inner, hinner, hinner'⟩ := hp.sequence_ok (t := t) (u := u) ht hu h h'
      rw [hp.merge_sequence, hp.merge_sequence, ih (u := u) ht hu hinner hinner']
    | _ => cases hp.wrapper_eq ht hu h h'
  | nullable t ih =>
    cases u with
    | nullable u =>
      obtain ⟨inner, hinner, hinner'⟩ := hp.nullable_ok (t := t) (u := u) ht hu h h'
      rw [hp.merge_nullable, hp.merge_nullable, ih (u := u) ht hu hinner hinner']
    | _ => cases hp.wrapper_eq ht hu h h'

section CSharp

def csharpPrimitives : List String := ["string", "bool", "int", "double"]

/-- What the end of a text tells to stand around the rest. -/
def csharpEnd (cs : List Char) : Option Wrapper :=
  match cs.getLast? with
  | some '>' => some .sequence
  | some '?' => some .nullable
  | _ => none

theorem csharp_sequence :
    (sequence t).csharp = .ok s ↔ ∃ inner, t.csharp = .ok inner ∧ s = "List<" ++ inner ++ ">" := by
  simp only [csharp, Success.bind_eq_ok, Success.pure_eq_ok, eq_comm (b := s)]

theorem csharp_nullable :
    (nullable t).csharp = .ok s ↔ ∃ inner, t.csharp = .ok inner ∧ s = inner ++ "?" := by
  simp only [csharp, Success.bind_eq_ok, Success.pure_eq_ok, eq_comm (b := s)]

theorem csharpEnd_eq (hnamed : t.Named words) (h : t.csharp = .ok s) :
    csharpEnd s.toList = t.wrapper? := by
  cases t with
  | unresolved => cases h
  | primitive kind => cases kind <;> cases h <;> decide
  | reference c =>
    obtain rfl := Except.ok.inj h
    obtain ⟨d, hd, hpart⟩ := getLast?_of_isIdentifier (hnamed c (List.mem_singleton_self c)).1
    rw [csharpEnd, hd]
    split
    next heq => exact absurd (Option.some.inj heq ▸ hpart) (by decide)
    next heq => exact absurd (Option.some.inj heq ▸ hpart) (by decide)
    next => rfl
  | sequence t =>
    obtain ⟨inner, -, rfl⟩ := csharp_sequence.mp h
    rw [csharpEnd, getLast?_append_text _ ">" rfl]
    rfl
  | nullable t =>
    obtain ⟨inner, -, rfl⟩ := csharp_nullable.mp h
    rw [csharpEnd, getLast?_append_text _ "?" rfl]
    rfl

theorem csharp_mem_primitives {kind : Primitive} (h : (primitive kind).csharp = .ok s) :
    s ∈ csharpPrimitives := by
  cases kind <;> cases h <;> decide

theorem csharp_distinguishes : Distinguishes csharp csharpPrimitives id where
  wrapper_eq ht hu h h' := (csharpEnd_eq ht h).symm.trans (csharpEnd_eq hu h')
  unresolved_ne := nofun
  primitive_eq {kind kind'} h := by
    cases kind <;> cases kind' <;> simp [csharp] at h ⊢
  primitive_mem := csharp_mem_primitives
  reference_eq _ := rfl
  sequence_ok {t u s} _ _ h h' := by
    obtain ⟨inner, hinner, rfl⟩ := csharp_sequence.mp h
    obtain ⟨inner', hinner', hsame⟩ := csharp_sequence.mp h'
    obtain rfl : inner = inner' := by simpa [← String.toList_inj] using hsame
    exact ⟨inner, hinner, hinner'⟩
  nullable_ok {t u s} _ _ h h' := by
    obtain ⟨inner, hinner, rfl⟩ := csharp_nullable.mp h
    obtain ⟨inner', hinner', hsame⟩ := csharp_nullable.mp h'
    obtain rfl : inner = inner' := by simpa [← String.toList_inj] using hsame
    exact ⟨inner, hinner, hinner'⟩
  merge_sequence _ := rfl
  merge_nullable _ := rfl

end CSharp

section TypeScript

def typescriptPrimitives : List String := ["string", "boolean", "number"]

/-- An element of a sequence, with parentheses around one that may be null. -/
def parenthesized (t : TypeRef) (element : String) : String :=
  if t.isNullable then "(" ++ element ++ ")" else element

theorem typescript_sequence : (sequence t).typescript = .ok s ↔
    ∃ inner, t.typescript = .ok inner ∧ s = parenthesized t inner ++ "[]" := by
  simp only [typescript, Success.bind_eq_ok, Success.pure_eq_ok, parenthesized, eq_comm (b := s)]

theorem typescript_nullable : (nullable t).typescript = .ok s ↔
    ∃ inner, t.typescript = .ok inner ∧ s = inner ++ " | null" := by
  simp only [typescript, Success.bind_eq_ok, Success.pure_eq_ok, eq_comm (b := s)]

/-- What the text tells to stand around the rest: only a sequence ends with a bracket, and apart
from sequences only a type with null has a blank. -/
def typescriptEnd (cs : List Char) : Option Wrapper :=
  if cs.getLast? = some ']' then some .sequence else if ' ' ∈ cs then some .nullable else none

theorem typescriptEnd_eq (hnamed : t.Named words) (h : t.typescript = .ok s) :
    typescriptEnd s.toList = t.wrapper? := by
  cases t with
  | unresolved => cases h
  | primitive kind => cases kind <;> cases h <;> decide
  | reference c =>
    obtain rfl := Except.ok.inj h
    obtain ⟨hidentifier, -⟩ := hnamed c (List.mem_singleton_self c)
    obtain ⟨d, hd, hpart⟩ := getLast?_of_isIdentifier hidentifier
    obtain ⟨-, -, -, -, hparts⟩ := Source.Scanner.word_of_isIdentifier hidentifier
    have hend : c.toList.getLast? ≠ some ']' := by
      rw [hd]
      exact fun heq => absurd (Option.some.inj heq ▸ hpart) (by decide)
    have hblank : ' ' ∉ c.toList := fun hmem => absurd (hparts _ hmem) (by decide)
    rw [typescriptEnd, if_neg hend, if_neg hblank]
    rfl
  | sequence t =>
    obtain ⟨inner, -, rfl⟩ := typescript_sequence.mp h
    rw [typescriptEnd, getLast?_append_text (c := ']') _ "[]" rfl, if_pos rfl]
    rfl
  | nullable t =>
    obtain ⟨inner, -, rfl⟩ := typescript_nullable.mp h
    rw [typescriptEnd, getLast?_append_text _ " | null" rfl, if_neg (by decide), if_pos (by simp)]
    rfl

/-- No type ends with a parenthesis. -/
theorem typescript_getLast?_ne (hnamed : t.Named words) (h : t.typescript = .ok s) :
    s.toList.getLast? ≠ some ')' := by
  cases t with
  | unresolved => cases h
  | primitive kind => cases kind <;> cases h <;> decide
  | reference c =>
    obtain rfl := Except.ok.inj h
    obtain ⟨d, hd, hpart⟩ := getLast?_of_isIdentifier (hnamed c (List.mem_singleton_self c)).1
    rw [hd]
    exact fun heq => absurd (Option.some.inj heq ▸ hpart) (by decide)
  | sequence t =>
    obtain ⟨inner, -, rfl⟩ := typescript_sequence.mp h
    rw [getLast?_append_text _ "[]" rfl]
    decide
  | nullable t =>
    obtain ⟨inner, -, rfl⟩ := typescript_nullable.mp h
    rw [getLast?_append_text _ " | null" rfl]
    decide

/-- Parentheses can be taken away again. -/
theorem parenthesized_injective {inner inner' : String} (ht : t.Named words) (hu : u.Named words)
    (h : t.typescript = .ok inner) (h' : u.typescript = .ok inner')
    (hsame : parenthesized t inner = parenthesized u inner') : inner = inner' := by
  have hclosed : ∀ text : String, ("(" ++ text ++ ")").toList.getLast? = some ')' :=
    fun text => getLast?_append_text _ ")" rfl
  unfold parenthesized at hsame
  split at hsame <;> split at hsame
  · simpa [← String.toList_inj] using hsame
  · exact absurd (hsame ▸ hclosed inner) (typescript_getLast?_ne hu h')
  · exact absurd (hsame ▸ hclosed inner') (typescript_getLast?_ne ht h)
  · exact hsame

theorem typescript_mem_primitives {kind : Primitive} (h : (primitive kind).typescript = .ok s) :
    s ∈ typescriptPrimitives := by
  cases kind <;> cases h <;> decide

theorem typescript_distinguishes :
    Distinguishes typescript typescriptPrimitives numbersMerged where
  wrapper_eq ht hu h h' := (typescriptEnd_eq ht h).symm.trans (typescriptEnd_eq hu h')
  unresolved_ne := nofun
  primitive_eq {kind kind'} h := by
    cases kind <;> cases kind' <;> simp [typescript, numbersMerged] at h ⊢
  primitive_mem := typescript_mem_primitives
  reference_eq _ := rfl
  sequence_ok {t u s} ht hu h h' := by
    obtain ⟨inner, hinner, rfl⟩ := typescript_sequence.mp h
    obtain ⟨inner', hinner', hsame⟩ := typescript_sequence.mp h'
    have helement : parenthesized t inner = parenthesized u inner' := by
      simpa [← String.toList_inj] using hsame
    obtain rfl := parenthesized_injective ht hu hinner hinner' helement
    exact ⟨inner, hinner, hinner'⟩
  nullable_ok {t u s} _ _ h h' := by
    obtain ⟨inner, hinner, rfl⟩ := typescript_nullable.mp h
    obtain ⟨inner', hinner', hsame⟩ := typescript_nullable.mp h'
    obtain rfl : inner = inner' := by simpa [← String.toList_inj] using hsame
    exact ⟨inner, hinner, hinner'⟩
  merge_sequence _ := rfl
  merge_nullable _ := rfl

end TypeScript

section Python

def pythonPrimitives : List String := ["str", "bool", "int", "float"]

def Wrapper.python : Wrapper → String
  | sequence => "List"
  | nullable => "Optional"

/-- What stands around the innermost part, from the outside. -/
def wrappers : TypeRef → List Wrapper
  | sequence t => .sequence :: t.wrappers
  | nullable t => .nullable :: t.wrappers
  | _ => []

/-- The Python name of the innermost part. -/
def stem : TypeRef → String
  | primitive .string => "str"
  | primitive .boolean => "bool"
  | primitive .integer => "int"
  | primitive .float => "float"
  | reference c => c
  | sequence t => t.stem
  | nullable t => t.stem
  | unresolved => ""

/-- A hint is the name of the innermost part in the brackets of what stands around it. -/
theorem python_nested (ht : t.isProper = true) : t.python =
    .ok (String.ofList (Source.nestedText t.stem (t.wrappers.map Wrapper.python))) := by
  have hbracket (w : String) (inner : List Char) : w ++ "[" ++ String.ofList inner ++ "]" =
      String.ofList (w.toList ++ '[' :: (inner ++ [']'])) := by
    rw [← String.toList_inj]
    simp
  induction t with
  | unresolved => cases ht
  | primitive kind => cases kind <;> rfl
  | reference c => simp [python, stem, wrappers, Source.nestedText]
  | sequence t ih =>
    rw [python, ih ht]
    exact congrArg Except.ok (hbracket "List" _)
  | nullable t ih =>
    rw [python, ih (Bool.and_eq_true_iff.mp ht).1]
    exact congrArg Except.ok (hbracket "Optional" _)

/-- The names in a hint are identifiers and no other words of the language. -/
theorem isName_stem (ht : t.isProper = true)
    (hnamed : t.Named (pythonPrimitives ++ Source.reserved)) :
    isIdentifier t.stem.toList = true ∧ Source.isReserved t.stem = false := by
  induction t with
  | unresolved => cases ht
  | primitive kind => cases kind <;> decide
  | reference c =>
    obtain ⟨hidentifier, hword⟩ := hnamed c (List.mem_singleton_self c)
    have hreserved : c ∉ Source.reserved := fun h => hword (List.mem_append_right _ h)
    exact ⟨hidentifier, by simpa [Source.isReserved, stem] using hreserved⟩
  | sequence t ih => exact ih ht hnamed
  | nullable t ih => exact ih (Bool.and_eq_true_iff.mp ht).1 hnamed

theorem isName_python (w : Wrapper) :
    isIdentifier w.python.toList = true ∧ Source.isReserved w.python = false := by
  cases w <;> decide

/-- The type is read back from the term of its hint. -/
theorem ofTerm_nested (ht : t.isProper = true)
    (hnamed : t.Named (pythonPrimitives ++ Source.reserved)) (hnormal : t.Normal)
    {known : List String} (hknown : t.classes ⊆ known)
    (quoted : String → Except BuildError.Cause TypeRef) :
    Hint.ofTerm known quoted (Source.nestedTerm t.stem (t.wrappers.map Wrapper.python)) =
      .ok t := by
  induction t with
  | unresolved => cases ht
  | primitive kind => cases kind <;> rfl
  | reference c =>
    obtain ⟨-, hword⟩ := hnamed c (List.mem_singleton_self c)
    have hprimitive : Hint.primitive? c = none := by
      unfold Hint.primitive?
      split <;> first | rfl | exact absurd (List.mem_append_left _ (by decide)) hword
    have hmem : c ∈ known := hknown (List.mem_singleton_self c)
    have hname : Text.normalize c = c := hnormal c (List.mem_singleton_self c)
    simp [stem, wrappers, Source.nestedTerm, Hint.ofTerm, Hint.named, hname, hprimitive, hmem]
  | sequence t ih =>
    have hinner := ih ht hnamed hnormal hknown
    exact (congrArg (TypeRef.sequence <$> ·) hinner).trans rfl
  | nullable t ih =>
    obtain ⟨ht, hnull⟩ := Bool.and_eq_true_iff.mp ht
    have hinner := ih ht hnamed hnormal hknown
    have horNull : t.orNull = nullable t := by
      cases t with
      | nullable => cases hnull
      | _ => rfl
    exact (congrArg (TypeRef.orNull <$> ·) hinner).trans (congrArg Except.ok horNull)

/-- A hint consists of words and brackets. -/
theorem python_chars (ht : t.isProper = true)
    (hnamed : t.Named (pythonPrimitives ++ Source.reserved)) (h : t.python = .ok s) :
    ∀ c ∈ s.toList, Source.isWordPart c = true ∨ c = '[' ∨ c = ']' := by
  rw [← Except.ok.inj ((python_nested ht).symm.trans h), String.toList_ofList]
  exact Source.Scanner.nestedText_chars (isName_stem ht hnamed).1
    (by simpa using fun w _ => (isName_python w).1)

/-- A hint can be read if at most 200 brackets are nested in it. -/
theorem readExpression?_python (ht : t.isProper = true)
    (hnamed : t.Named (pythonPrimitives ++ Source.reserved)) (h : t.python = .ok s) :
    Source.readExpression? s =
      if t.wrappers.length ≤ 200 then
        some (Source.nestedTerm t.stem (t.wrappers.map Wrapper.python))
      else none := by
  have hsource : s.toList = Source.nestedText t.stem (t.wrappers.map Wrapper.python) := by
    rw [← Except.ok.inj ((python_nested ht).symm.trans h), String.toList_ofList]
  have houter : ∀ w ∈ t.wrappers.map Wrapper.python,
      isIdentifier w.toList = true ∧ Source.isReserved w = false := by
    simpa using fun w _ => isName_python w
  rw [Source.readExpression?_nested hsource (isName_stem ht hnamed) houter, List.length_map]

/-- A hint that can be read is read as the type that it was printed from, bare or as a text. -/
theorem hint_python (ht : t.isProper = true)
    (hnamed : t.Named (pythonPrimitives ++ Source.reserved)) (hnormal : t.Normal)
    (h : t.python = .ok s) (hdepth : t.wrappers.length ≤ 200) {known : List String}
    (hknown : t.classes ⊆ known) :
    ∃ term, Source.readExpression? s = some term ∧ Hint.type known term = .ok t ∧
      Hint.type known (.constant (.text s)) = .ok t := by
  have hread := readExpression?_python ht hnamed h
  rw [if_pos hdepth] at hread
  refine ⟨_, hread, ofTerm_nested ht hnamed hnormal hknown _, ?_⟩
  have hnull : s.toList.contains '\x00' = false := by
    rw [List.contains_eq_mem, decide_eq_false_iff_not]
    intro hmem
    rcases python_chars ht hnamed h _ hmem with hpart | hbracket | hbracket
    · exact absurd hpart (by decide)
    · exact absurd hbracket (by decide)
    · exact absurd hbracket (by decide)
  rw [Hint.type, Hint.ofTerm, Hint.ofText, hnull, hread]
  exact ofTerm_nested ht hnamed hnormal hknown _

end Python

/-- A printed type tells which type it is. Of types without a part left out and without a null on a
null, whose classes have names of their own, C# has the same text for one only, and TypeScript only
for those that differ in the kinds of their numbers. A Python hint with at most 200 nested brackets
is read back as the type itself, if names are in the normal form in which they are read; one with
more brackets cannot be read at all. -/
theorem printed_identifies (ht : t.isProper = true) :
    (t.Named csharpPrimitives → (∃ s, t.csharp = .ok s) ∧
      ∀ u : TypeRef, u.isProper = true → u.Named csharpPrimitives → t.csharp = u.csharp → t = u) ∧
    (t.Named typescriptPrimitives → (∃ s, t.typescript = .ok s) ∧
      ∀ u : TypeRef, u.isProper = true → u.Named typescriptPrimitives →
        t.typescript = u.typescript → t.numbersMerged = u.numbersMerged) ∧
    (t.Named (pythonPrimitives ++ Source.reserved) → ∃ s, t.python = .ok s ∧
      (t.Normal → t.wrappers.length ≤ 200 → ∀ known, t.classes ⊆ known → ∃ term,
        Source.readExpression? s = some term ∧ Hint.type known term = .ok t ∧
          Hint.type known (.constant (.text s)) = .ok t) ∧
      (200 < t.wrappers.length → Source.readExpression? s = none)) := by
  have htext := fun target : Target => (formed_of_isProper ht).exists_typeName target
  refine ⟨fun hnamed => ⟨htext .csharp, fun u _ hu h => ?_⟩,
    fun hnamed => ⟨htext .typescript, fun u _ hu h => ?_⟩, fun hnamed => ?_⟩
  · obtain ⟨s, hs⟩ := htext .csharp
    exact csharp_distinguishes.merge_eq hnamed hu hs (h ▸ hs)
  · obtain ⟨s, hs⟩ := htext .typescript
    exact typescript_distinguishes.merge_eq hnamed hu hs (h ▸ hs)
  · obtain ⟨s, hs⟩ := htext .python
    refine ⟨s, hs, fun hnormal hdepth known hknown =>
      hint_python ht hnamed hnormal hs hdepth hknown, fun hdepth => ?_⟩
    rw [readExpression?_python ht hnamed hs, if_neg (not_le.mpr hdepth)]

/-- Tags that may be left out, against tags of which each may be. -/
theorem printed_identifies_tags :
    let tags := nullable (sequence (reference "Tag"))
    let gaps := sequence (nullable (reference "Tag"))
    tags.csharp = .ok "List<Tag>?" ∧ tags.csharp ≠ gaps.csharp ∧
      tags.typescript = .ok "Tag[] | null" ∧ tags.typescript ≠ gaps.typescript ∧
      tags.python = .ok "Optional[List[Tag]]" ∧
      ∃ term, Source.readExpression? "Optional[List[Tag]]" = some term ∧
        Hint.type ["Tag"] term = .ok tags := by
  intro tags gaps
  have hnamed (words : List String) (hwords : "Tag" ∉ words) :
      tags.Named words ∧ gaps.Named words := by
    have htag : ∀ name ∈ ["Tag"], isIdentifier name.toList = true ∧ name ∉ words := by
      rw [List.forall_mem_singleton]
      exact ⟨by decide, hwords⟩
    exact ⟨htag, htag⟩
  obtain ⟨hcsharp, htypescript, hpython⟩ := printed_identifies (t := tags) rfl
  obtain ⟨-, hcsharp⟩ := hcsharp (hnamed _ (by decide)).1
  obtain ⟨-, htypescript⟩ := htypescript (hnamed _ (by decide)).1
  obtain ⟨s, hs, hread, -⟩ := hpython (hnamed _ (by decide)).1
  obtain rfl : "Optional[List[Tag]]" = s := Except.ok.inj hs
  have hnormal : tags.Normal := List.forall_mem_singleton.mpr (by decide)
  obtain ⟨term, hterm, htype, -⟩ := hread hnormal (by decide) ["Tag"] (by simp [tags, classes])
  refine ⟨rfl, fun h => ?_, rfl, fun h => ?_, rfl, term, hterm, htype⟩
  · exact absurd (hcsharp gaps rfl (hnamed _ (by decide)).2 h) (by decide)
  · exact absurd (htypescript gaps rfl (hnamed _ (by decide)).2 h) (by decide)

/-- Three hints are not read as what they are printed from: whole numbers in 201 sequences of one
another, a class that is named by a word of the language, and one whose name has a normal form. -/
theorem printed_unreadable :
    let deep := Nat.iterate sequence 201 integer
    let keyword := reference "class"
    let ordinal := reference "ª"
    (deep.isProper = true ∧ deep.Named (pythonPrimitives ++ Source.reserved) ∧ deep.Normal ∧
      ∃ s, deep.python = .ok s ∧ Source.readExpression? s = none) ∧
    (keyword.isProper = true ∧ keyword.Named pythonPrimitives ∧ keyword.Normal ∧
      keyword.python = .ok "class" ∧ Source.readExpression? "class" = none) ∧
    ordinal.isProper = true ∧ ordinal.Named (pythonPrimitives ++ Source.reserved) ∧
      ordinal.python = .ok "ª" ∧ ∃ term, Source.readExpression? "ª" = some term ∧
        Hint.type ["ª"] term ≠ .ok ordinal := by
  intro deep keyword ordinal
  refine ⟨?_, ⟨rfl, ?_, ?_, rfl, by decide⟩, rfl, ?_⟩
  · have hproper : deep.isProper = true := by decide
    have hclasses : deep.classes = [] := by decide
    have hnamed : deep.Named (pythonPrimitives ++ Source.reserved) := by simp [Named, hclasses]
    have hdepth : ¬deep.wrappers.length ≤ 200 := by decide +kernel
    refine ⟨hproper, hnamed, by simp [Normal, hclasses], _, python_nested hproper, ?_⟩
    rw [readExpression?_python hproper hnamed (python_nested hproper), if_neg hdepth]
  · exact List.forall_mem_singleton.mpr (by decide)
  · exact List.forall_mem_singleton.mpr (by decide)
  · have hnamed : ordinal.Named (pythonPrimitives ++ Source.reserved) :=
      List.forall_mem_singleton.mpr (by decide)
    have hread := readExpression?_python (t := ordinal) (s := "ª") rfl hnamed rfl
    rw [if_pos (by decide)] at hread
    exact ⟨hnamed, rfl, _, hread, by decide⟩

end ViewModel.TypeRef
