import ViewModel.Proofs.Accessor.Built
import ViewModel.Proofs.Build.Accepted
import ViewModel.Proofs.Text.Capitals
import ViewModel.Target.ClassFile

/-!
The names that properties have in the code of a target. C# and TypeScript spell the names of the
source in their own way, which drops what is neither an ASCII letter nor a digit; here is when that
leaves every property of a class a name of its own.
-/

namespace ViewModel

open Source (Declaration)

namespace Target

/-- The name of a property in the code of a target. -/
def memberName : Target → String → String
  | csharp => ClassFile.pascal
  | typescript => ClassFile.camel
  | python => id

/-- The lines of code that a property has, as the first of its class or not. -/
def propertyLines (isFirst : Bool) (p : PropertyDecl) : Target → Except PrintError (List String)
  | csharp => (fun line => [line]) <$> ClassFile.csharpProperty p
  | typescript => ClassFile.typescriptProperty isFirst p
  | python => ClassFile.pythonProperties isFirst false [p]

/-- What stands before the name of a property of some type where it is declared. -/
def beforeName (type : String) (p : PropertyDecl) : Target → String
  | csharp => ClassFile.indent 2 ("public " ++ type ++ " ")
  | typescript => if p.computed then "  get " else "  "
  | python => ClassFile.indent 1 (if p.computed then "def " else "")

/-- What stands right after the name. -/
def afterName (p : PropertyDecl) : Target → String
  | csharp => if p.computed then " => " else " \x7b get; set; \x7d"
  | typescript => if p.computed then "(): " else ": "
  | python => if p.computed then "(self) -> " else ": "

variable {p : PropertyDecl} {isFirst : Bool} {lines : List String}

/-- The code of a property declares it under its name. -/
theorem propertyLines_declare (t : Target) (h : t.propertyLines isFirst p = .ok lines) :
    ∃ type rest, t.typeName p.type = .ok type ∧
      t.beforeName type p ++ t.memberName p.name ++ t.afterName p ++ rest ∈ lines := by
  cases t with
  | csharp =>
    obtain ⟨line, hline, rfl⟩ := Success.map_eq_ok.mp h
    obtain ⟨type, htype, hline⟩ := Success.bind_eq_ok.mp hline
    refine ⟨type, ?_⟩
    dsimp only at hline
    split at hline
    next hcomputed =>
      obtain ⟨value, -, hline⟩ := Success.bind_eq_ok.mp hline
      rw [← Success.pure_eq_ok.mp hline]
      exact ⟨value ++ ";", htype, by
        simp [beforeName, memberName, afterName, hcomputed, ClassFile.indent, String.append_assoc,
          -String.reduceAppend]⟩
    next hcomputed =>
      obtain ⟨value, -, hline⟩ := Success.bind_eq_ok.mp hline
      rw [← Success.pure_eq_ok.mp hline]
      exact ⟨value, htype, by
        simp [beforeName, memberName, afterName, hcomputed, ClassFile.indent, String.append_assoc,
          -String.reduceAppend]⟩
  | typescript =>
    obtain ⟨type, htype, hlines⟩ := Success.bind_eq_ok.mp h
    refine ⟨type, ?_⟩
    split at hlines
    next hcomputed =>
      obtain ⟨value, -, hlines⟩ := Success.bind_eq_ok.mp hlines
      rw [← Success.pure_eq_ok.mp hlines]
      exact ⟨type ++ " \x7b", htype, by
        simp [beforeName, memberName, afterName, hcomputed, String.append_assoc]⟩
    next hcomputed =>
      rw [← Success.pure_eq_ok.mp hlines]
      exact ⟨type ++ " = " ++ ClassFile.typescriptInitializer p ++ ";", htype, by
        simp [beforeName, memberName, afterName, hcomputed, String.append_assoc]⟩
  | python =>
    obtain ⟨type, htype, hlines⟩ := Success.bind_eq_ok.mp h
    refine ⟨type, ?_⟩
    split at hlines
    next hcomputed =>
      obtain ⟨value, -, hlines⟩ := Success.bind_eq_ok.mp hlines
      obtain ⟨more, -, hlines⟩ := Success.bind_eq_ok.mp hlines
      rw [← Success.pure_eq_ok.mp hlines]
      exact ⟨type ++ ":", htype, by
        simp [beforeName, memberName, afterName, hcomputed, ClassFile.indent, String.append_assoc,
          -String.reduceAppend]⟩
    next hcomputed =>
      obtain ⟨more, -, hlines⟩ := Success.bind_eq_ok.mp hlines
      rw [← Success.pure_eq_ok.mp hlines]
      exact ⟨type ++ " = " ++ ClassFile.pythonDefault p, htype, by
        simp [beforeName, memberName, afterName, hcomputed, ClassFile.indent, String.append_assoc,
          -String.reduceAppend]⟩

/-! C# and TypeScript. -/

variable {t : Target} {a b : String}

theorem memberName_eq_empty (ht : t ≠ .python) :
    t.memberName a = "" ↔ ∀ c ∈ a.toList, Text.isWordLetter c = false := by
  cases t with
  | csharp => rw [memberName, ClassFile.pascal, String.ofList_eq_empty_iff, Text.pascalCase_eq_nil]
  | typescript =>
    rw [memberName, ClassFile.camel, String.ofList_eq_empty_iff, Text.camelCase_eq_nil,
      Text.pascalCase_eq_nil]
  | python => exact absurd rfl ht

/-- Two names become one exactly where their letters and digits are the same, counting as capitals
the small letters that begin a word. -/
theorem memberName_inj (ht : t ≠ .python) :
    t.memberName a = t.memberName b ↔
      Text.capitals false a.toList = Text.capitals false b.toList := by
  rw [← Text.pascalCase_eq, ← Text.pascalCase_eq]
  cases t with
  | csharp => rw [memberName, ClassFile.pascal, ClassFile.pascal, String.ofList_inj]
  | typescript =>
    rw [memberName, ClassFile.camel, ClassFile.camel, String.ofList_inj, Text.camelCase_inj]
  | python => exact absurd rfl ht

end Target

/-- The name is written in snake case. -/
def IsSnakeName (name : String) : Prop := Text.isSnake true name.toList = true

instance (name : String) : Decidable (IsSnakeName name) :=
  inferInstanceAs (Decidable (Text.isSnake true name.toList = true))

namespace Manifest

open Accessor

variable {all : List Declaration} {m m' : Manifest} {d : ClassDecl}

theorem outlines_apply (done : Progress) (m : Manifest) :
    (done.apply m).outlines = m.outlines := by
  simp [outlines, Progress.apply, Progress.settleClass, ClassDecl.outline, Function.comp_def]

theorem compiled_orderly (hm : Resolve.manifest all = .ok m) (hcompile : m.compile = .ok m') :
    m'.Orderly := by
  obtain ⟨done, -, rfl⟩ := compile_outcome hcompile
  have hlinked : (done.apply m).Linked := by
    rw [Linked, outlines_apply]
    exact Resolve.linked_of_manifest hm
  rw [orderly_iff_coherent hlinked, outlines_apply,
    ← orderly_iff_coherent (Resolve.linked_of_manifest hm)]
  exact Resolve.orderly_of_manifest hm

/-- Every property of the class, its own or inherited, has a name in the code of the target, and no
two have the same one. -/
def MembersApart (m : Manifest) (d : ClassDecl) (t : Target) : Prop :=
  (∀ p ∈ m.allProperties d, t.memberName p.name ≠ "") ∧
    ((m.allProperties d).map fun p => t.memberName p.name).Nodup

/-- What keeps them apart: every name has a letter or digit, and different names differ in their
letters and digits, small letters that begin a word counting as capitals. -/
def WordsOfMembersApart (m : Manifest) (d : ClassDecl) : Prop :=
  (∀ p ∈ m.allProperties d, ∃ c ∈ p.name.toList, Text.isWordLetter c = true) ∧
    ∀ p ∈ m.allProperties d, ∀ q ∈ m.allProperties d,
      Text.capitals false p.name.toList = Text.capitals false q.name.toList → p.name = q.name

theorem Orderly.membersApart_iff_words (h : m.Orderly) (hd : d ∈ m.classes) {t : Target}
    (ht : t ≠ .python) : m.MembersApart d t ↔ m.WordsOfMembersApart d := by
  have hnamed (p : PropertyDecl) : t.memberName p.name ≠ "" ↔
      ∃ c ∈ p.name.toList, Text.isWordLetter c = true := by
    rw [Ne, Target.memberName_eq_empty ht]
    simp
  have hnames := h.names d hd
  have hnodup : ((m.allProperties d).map fun p => t.memberName p.name).Nodup ↔
      ∀ p ∈ m.allProperties d, ∀ q ∈ m.allProperties d,
        Text.capitals false p.name.toList = Text.capitals false q.name.toList →
          p.name = q.name := by
    have hmap : (m.allProperties d).map (fun p => t.memberName p.name) =
        ((m.allProperties d).map PropertyDecl.name).map t.memberName := by
      rw [List.map_map]
      rfl
    rw [hmap, List.nodup_map_iff_inj_on hnames, List.forall_mem_map]
    simp only [List.forall_mem_map, Target.memberName_inj ht]
  unfold MembersApart WordsOfMembersApart
  rw [hnodup]
  simp only [hnamed]

theorem wordsOfMembersApart_of_snake (h : ∀ p ∈ m.allProperties d, IsSnakeName p.name) :
    m.WordsOfMembersApart d := by
  constructor
  · intro p hp
    exact Text.exists_isWordLetter (h p hp)
  · intro p hp q hq hsame
    rw [← Text.pascalCase_eq, ← Text.pascalCase_eq] at hsame
    exact String.toList_injective (Text.snake_of_pascalCase (h p hp) (h q hq) hsame)

/-- Whether or not the accessors of a build are compiled: whatever code a target has for a property
declares it under its name for the target; in C# and in TypeScript all properties that are visible
on a class have names, and all of these are different, exactly if the words of the names in the
source keep them apart. Names in snake case are kept apart. -/
theorem membersApart_iff (hm : Resolve.manifest all = .ok m)
    (hcompiled : m' = m ∨ m.compile = .ok m') (hd : d ∈ m'.classes) {t : Target}
    (ht : t ≠ .python) :
    (∀ p ∈ m'.allProperties d, ∀ isFirst lines, t.propertyLines isFirst p = .ok lines →
      ∃ type rest, t.typeName p.type = .ok type ∧
        t.beforeName type p ++ t.memberName p.name ++ t.afterName p ++ rest ∈ lines) ∧
    (m'.MembersApart d t ↔ m'.WordsOfMembersApart d) ∧
    ((∀ p ∈ m'.allProperties d, IsSnakeName p.name) → m'.MembersApart d t) := by
  have horderly : m'.Orderly := by
    rcases hcompiled with rfl | hcompile
    · exact Resolve.orderly_of_manifest hm
    · exact compiled_orderly hm hcompile
  have hiff := horderly.membersApart_iff_words hd ht
  refine ⟨fun p _ _ _ hlines => t.propertyLines_declare hlines, hiff, fun hsnake => ?_⟩
  exact hiff.mpr (wordsOfMembersApart_of_snake hsnake)

end Manifest

namespace Sample

/-- A class with two whole numbers. -/
def pairOf (first second : String) : Declaration where
  name := "Pair"
  base := none
  members := [.field first 2 (some (.constant (.int 1))) none,
    .field second 3 (some (.constant (.int 2))) none]
  source := "pair.py"
  line := 1

def pairClass (first second : String) : ClassDecl :=
  { name := "Pair",
    properties := [{ name := first, type := .integer, default := .int 1 },
      { name := second, type := .integer, default := .int 2 }],
    source := some "pair.py" }

def pairs (first second : String) : Manifest := ⟨[pairClass first second]⟩

end Sample

/-- Two names in snake case. -/
theorem Manifest.membersApart_snake :
    (Sample.pairs "page_size" "page_count").compile =
        .ok (Sample.pairs "page_size" "page_count") ∧
      (Sample.pairs "page_size" "page_count").MembersApart
        (Sample.pairClass "page_size" "page_count") .csharp ∧
      (Sample.pairs "page_size" "page_count").MembersApart
        (Sample.pairClass "page_size" "page_count") .typescript := by
  have hbuilt : Resolve.manifest [Sample.pairOf "page_size" "page_count"] =
      .ok (Sample.pairs "page_size" "page_count") := rfl
  have hcompiled : (Sample.pairs "page_size" "page_count").compile =
      .ok (Sample.pairs "page_size" "page_count") := rfl
  have hsnake : ∀ p ∈ (Sample.pairs "page_size" "page_count").allProperties
      (Sample.pairClass "page_size" "page_count"), IsSnakeName p.name := by decide +kernel
  refine ⟨hcompiled, ?_, ?_⟩
  · exact (membersApart_iff hbuilt (.inr hcompiled) List.mem_cons_self (by decide)).2.2 hsnake
  · exact (membersApart_iff hbuilt (.inl rfl) List.mem_cons_self (by decide)).2.2 hsnake

/-- A capital and an underscore part words alike, and an underscore alone is no name at all. -/
theorem Manifest.members_collide :
    Resolve.manifest [Sample.pairOf "a_b" "aB"] = .ok (Sample.pairs "a_b" "aB") ∧
      (Sample.pairs "a_b" "aB").compile = .ok (Sample.pairs "a_b" "aB") ∧
      ((Sample.pairs "a_b" "aB").allProperties (Sample.pairClass "a_b" "aB")).mapM
          (fun p => Target.csharp.propertyLines false p) =
        .ok [["        public int AB \x7b get; set; \x7d = 1;"],
          ["        public int AB \x7b get; set; \x7d = 2;"]] ∧
      ¬(Sample.pairs "a_b" "aB").MembersApart (Sample.pairClass "a_b" "aB") .csharp ∧
      ¬(Sample.pairs "a_b" "aB").MembersApart (Sample.pairClass "a_b" "aB") .typescript ∧
      Resolve.manifest [Sample.pairOf "_" "a"] = .ok (Sample.pairs "_" "a") ∧
      ¬(Sample.pairs "_" "a").MembersApart (Sample.pairClass "_" "a") .csharp ∧
      ¬(Sample.pairs "_" "a").MembersApart (Sample.pairClass "_" "a") .typescript := by
  refine ⟨rfl, rfl, rfl, ?_, ?_, rfl, ?_, ?_⟩
  · exact fun h => absurd h.2 (by decide +kernel)
  · exact fun h => absurd h.2 (by decide +kernel)
  · exact fun h => absurd h.1 (by decide +kernel)
  · exact fun h => absurd h.1 (by decide +kernel)

end ViewModel
