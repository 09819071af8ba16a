import Mathlib.Data.Finset.Card
import Mathlib.Data.List.Sort
import Mathlib.Logic.Relation
import ViewModel.Proofs.Build.FileNames
import ViewModel.Proofs.Target.ClassBody

/-!
The Python package of a build. Its modules can be run one after another, each after those that it
imports from, exactly if no class refers to itself by way of others and imports can go through all
their names; the body of a class finds the names of its module as long as no property above takes
one of them.
-/

namespace ViewModel

open Relation (TransGen)
open Source (Declaration)

/-- A name that an import may go through. -/
def IsModuleName (s : String) : Prop :=
  Source.Scanner.isIdentifier s.toList = true ∧ Source.isReserved s = false

instance (s : String) : Decidable (IsModuleName s) :=
  inferInstanceAs (Decidable (_ ∧ _))

namespace Manifest

variable {m : Manifest} {c d : ClassDecl}

/-- The class that a module of the package declares: of classes with one file, the last one is
left. -/
def module? (m : Manifest) (module : String) : Option ClassDecl :=
  m.classes.reverse.find? fun c => ClassFile.snake c.name == module

theorem module?_snake (hfiles : (m.classes.map Target.python.fileName).Nodup)
    (hc : c ∈ m.classes) : m.module? (ClassFile.snake c.name) = some c := by
  cases hd : m.module? (ClassFile.snake c.name) with
  | none =>
    have hnone := List.find?_eq_none.mp hd c (List.mem_reverse.mpr hc)
    simp at hnone
  | some d =>
    have hmem : d ∈ m.classes := List.mem_reverse.mp (List.mem_of_find?_eq_some hd)
    have hsnake : ClassFile.snake d.name = ClassFile.snake c.name := by
      simpa using List.find?_some hd
    have hfile : Target.python.fileName d = Target.python.fileName c :=
      congrArg (· ++ ".py") hsnake
    rw [List.inj_on_of_nodup_map hfiles hmem hc hfile]

/-- The import leads to one of these modules, and the module declares what is imported. -/
def Found (m : Manifest) (finished : List ClassDecl) (i : Import) : Prop :=
  IsModuleName i.module ∧ ∃ d ∈ finished, m.module? i.module = some d ∧ d.name = i.name

/-- The modules run in order, each with its imports from those that have run to their end. -/
def RunsAfter (m : Manifest) : List ClassDecl → List ClassDecl → Prop
  | _, [] => True
  | finished, c :: rest =>
      (∀ i ∈ c.imports, m.Found finished i) ∧ m.RunsAfter (finished ++ [c]) rest

/-- The imports of the package file. -/
def packageImports (m : Manifest) : List Import :=
  (m.names.mergeSort fun a b => decide (ClassFile.snake a ≤ ClassFile.snake b)).map Import.ofClass

/-- In some order all modules of the package run, and then the package file does. -/
def Importable (m : Manifest) : Prop :=
  ∃ order, order.Perm m.classes ∧ m.RunsAfter [] order ∧
    ∀ i ∈ m.packageImports, m.Found order i

/-- The class of one name refers to the other name. -/
def Refers (m : Manifest) (a b : String) : Prop := ∃ c ∈ m.classes, c.name = a ∧ b ∈ c.references

/-- What has run refers to nothing without end. -/
theorem acc_of_runsAfter (hnames : m.names.Nodup) {finished rest : List ClassDecl}
    (h : m.RunsAfter finished rest) (hrest : rest ⊆ m.classes)
    (hfinished : ∀ d ∈ finished, Acc (flip m.Refers) d.name) :
    ∀ d ∈ finished ++ rest, Acc (flip m.Refers) d.name := by
  induction rest generalizing finished with
  | nil => simpa using hfinished
  | cons c rest ih =>
    -- every import of `c` is of a class that has run, and that one is accessible already
    obtain ⟨himports, hafter⟩ := h
    obtain ⟨hc, hrest⟩ := List.cons_subset.mp hrest
    have hacc : Acc (flip m.Refers) c.name := by
      refine .intro _ fun b hb => ?_
      obtain ⟨d, hd, hname, hrefers⟩ := hb
      obtain rfl := List.inj_on_of_nodup_map hnames hd hc hname
      obtain ⟨-, e, he, -, rfl⟩ := himports _ (List.mem_map_of_mem hrefers)
      exact hfinished e he
    have hall := ih hafter hrest fun d hd => by
      rcases List.mem_append.mp hd with hd | hd
      · exact hfinished d hd
      · exact List.mem_singleton.mp hd ▸ hacc
    simpa using hall

/-- Where the package can be imported, no class refers to itself by way of others. -/
theorem acyclic_of_importable (hnames : m.names.Nodup) (h : m.Importable) (a : String) :
    ¬TransGen m.Refers a a := by
  obtain ⟨order, hperm, hruns, -⟩ := h
  intro hcycle
  obtain ⟨b, ⟨c, hc, rfl, -⟩, -⟩ := TransGen.head'_iff.mp hcycle
  have hacc := acc_of_runsAfter hnames hruns hperm.subset (by simp) c
    (by simpa using hperm.mem_iff.mpr hc)
  exact not_circular_of_acc hacc .refl hcycle

theorem mem_packageImports {i : Import} :
    i ∈ m.packageImports ↔ ∃ c ∈ m.classes, i = .ofClass c.name := by
  simp [packageImports, names, eq_comm]

/-- The package file starts with its imports. -/
theorem exists_packageLines (m : Manifest) : ∃ listed, ClassFile.pythonPackage m =
    ClassFile.lines (ClassFile.pythonHeader :: m.packageImports.map Import.line ++ listed) := by
  rw [ClassFile.pythonPackage, packageImports, List.map_map, List.append_assoc, List.append_assoc,
    List.append_assoc]
  exact ⟨_, rfl⟩

theorem Importable.isModuleName (h : m.Importable) (hc : c ∈ m.classes) :
    IsModuleName (ClassFile.snake c.name) := by
  obtain ⟨order, -, -, hpackage⟩ := h
  exact (hpackage _ (mem_packageImports.mpr ⟨c, hc, rfl⟩)).1

open Classical in
/-- How many classes a class refers to, directly or by way of others. -/
noncomputable def reach (m : Manifest) (a : String) : Nat :=
  (m.names.toFinset.filter (TransGen m.Refers a)).card

open Classical in
/-- Where nothing goes in a circle, a class reaches more than what it refers to. -/
theorem reach_lt (hacyclic : ∀ a, ¬TransGen m.Refers a a) {a b : String} (hab : m.Refers a b)
    (hb : b ∈ m.names) : m.reach b < m.reach a := by
  refine Finset.card_lt_card (Finset.ssubset_iff_subset_ne.mpr ⟨fun d hd => ?_, fun heq => ?_⟩)
  · obtain ⟨hd, hbd⟩ := Finset.mem_filter.mp hd
    exact Finset.mem_filter.mpr ⟨hd, .head hab hbd⟩
  · have hmem : b ∈ m.names.toFinset.filter (TransGen m.Refers a) :=
      Finset.mem_filter.mpr ⟨List.mem_toFinset.mpr hb, .single hab⟩
    rw [← heq] at hmem
    exact hacyclic b (Finset.mem_filter.mp hmem).2

/-- The import of a class leads to a module of this class that has run. -/
theorem found_ofClass (hfiles : (m.classes.map Target.python.fileName).Nodup)
    (hmodule : IsModuleName (ClassFile.snake d.name)) (hd : d ∈ m.classes)
    {finished : List ClassDecl} (hfinished : d ∈ finished) : m.Found finished (.ofClass d.name) :=
  ⟨hmodule, d, hfinished, module?_snake hfiles hd, rfl⟩

/-- Modules in the order of what they reach find their imports. -/
theorem runsAfter_of_sorted (hfiles : (m.classes.map Target.python.fileName).Nodup)
    (hreferences : ∀ c ∈ m.classes, ∀ name ∈ c.references, name ∈ m.names)
    (hmodules : ∀ c ∈ m.classes, IsModuleName (ClassFile.snake c.name))
    (hacyclic : ∀ a, ¬TransGen m.Refers a a) {finished rest : List ClassDecl}
    (hperm : (finished ++ rest).Perm m.classes)
    (hsorted : rest.Pairwise fun a b => m.reach a.name ≤ m.reach b.name) :
    m.RunsAfter finished rest := by
  induction rest generalizing finished with
  | nil => trivial
  | cons c rest ih =>
    obtain ⟨hfirst, hsorted⟩ := List.pairwise_cons.mp hsorted
    have hc : c ∈ m.classes := hperm.mem_iff.mp (by simp)
    refine ⟨fun i hi => ?_, ih (by simpa using hperm) hsorted⟩
    obtain ⟨name, hname, rfl⟩ := List.mem_map.mp hi
    obtain ⟨d, hd, rfl⟩ := List.mem_map.mp (hreferences c hc name hname)
    have hlt := reach_lt hacyclic ⟨c, hc, rfl, hname⟩ (List.mem_map_of_mem hd)
    refine found_ofClass hfiles (hmodules d hd) hd ?_
    -- what `c` refers to reaches less, so it stands before
    rcases List.mem_append.mp (hperm.mem_iff.mpr hd) with hbefore | hafter
    · exact hbefore
    · rcases List.mem_cons.mp hafter with rfl | hafter
      · omega
      · have := hfirst d hafter
        omega

theorem exists_sorted (m : Manifest) : ∃ order : List ClassDecl, order.Perm m.classes ∧
    order.Pairwise fun a b => m.reach a.name ≤ m.reach b.name := by
  refine ⟨m.classes.mergeSort fun a b => decide (m.reach a.name ≤ m.reach b.name),
    List.mergeSort_perm _ _, ?_⟩
  have hsorted := @List.pairwise_mergeSort _ (fun a b => decide (m.reach a.name ≤ m.reach b.name))
    (fun a b c => by simpa using Nat.le_trans) (fun a b => by simpa using Nat.le_total _ _)
    m.classes
  exact hsorted.imp fun h => by simpa using h

theorem importable_iff (hnames : m.names.Nodup)
    (hfiles : (m.classes.map Target.python.fileName).Nodup)
    (hreferences : ∀ c ∈ m.classes, ∀ name ∈ c.references, name ∈ m.names) :
    m.Importable ↔ (∀ a, ¬TransGen m.Refers a a) ∧
      ∀ c ∈ m.classes, IsModuleName (ClassFile.snake c.name) := by
  constructor
  · exact fun h => ⟨acyclic_of_importable hnames h, fun c hc => h.isModuleName hc⟩
  · rintro ⟨hacyclic, hmodules⟩
    obtain ⟨order, hperm, hsorted⟩ := m.exists_sorted
    refine ⟨order, hperm, runsAfter_of_sorted hfiles hreferences hmodules hacyclic hperm hsorted,
      fun i hi => ?_⟩
    obtain ⟨c, hc, rfl⟩ := mem_packageImports.mp hi
    exact found_ofClass hfiles (hmodules c hc) hc (hperm.mem_iff.mpr hc)

variable {all : List Declaration} {m' : Manifest}

theorem unhidden_body_iff {body : List BodyStatement}
    (h : c.properties.mapM PropertyDecl.statement = .ok body) :
    BodyStatement.Unhidden [] body ↔ c.properties.Pairwise fun p q => p.name ∉ q.evaluated := by
  have hstatements := Success.mapM_eq_ok.mp h
  rw [BodyStatement.unhidden_iff]
  constructor
  · rintro ⟨-, hbody⟩
    refine Success.pairwise_right ?_ hstatements.flip hbody
    intro s s' p p' hhidden hs hs'
    obtain ⟨hname, -⟩ := PropertyDecl.statement_evaluated hs
    obtain ⟨-, hevaluated⟩ := PropertyDecl.statement_evaluated hs'
    rwa [← hname, ← hevaluated]
  · intro hproperties
    refine ⟨by simp, Success.pairwise_right ?_ hstatements hproperties⟩
    intro p p' s s' hhidden hs hs'
    obtain ⟨hname, -⟩ := PropertyDecl.statement_evaluated hs
    obtain ⟨-, hevaluated⟩ := PropertyDecl.statement_evaluated hs'
    rwa [hname, hevaluated]

/-- The Python package of a build whose classes have files of their own: its modules run in some
order if and only if no class refers to itself by way of others and each has a name that imports can
go through; and the body of a class evaluates the names of its module if and only if no property
above has taken them. -/
theorem package_runs (hm : Resolve.manifest all = .ok m) (hcompile : m.compile = .ok m')
    (hfiles : (m'.classes.map Target.python.fileName).Nodup) :
    (∃ listed, ClassFile.pythonPackage m' = ClassFile.lines
      (ClassFile.pythonHeader :: m'.packageImports.map Import.line ++ listed)) ∧
    (m'.Importable ↔ (∀ a, ¬TransGen m'.Refers a a) ∧
      ∀ c ∈ m'.classes, IsModuleName (ClassFile.snake c.name)) ∧
    ∀ c ∈ m'.classes, ∃ body, c.properties.mapM PropertyDecl.statement = .ok body ∧
      ClassFile.python c = .ok (ClassFile.lines (ClassFile.pythonLines c body)) ∧
      (BodyStatement.Unhidden [] body ↔
        c.properties.Pairwise fun p q => p.name ∉ q.evaluated) := by
  refine ⟨m'.exists_packageLines, importable_iff (compiled_names hcompile ▸ names_nodup hm) hfiles
    fun c hc name => compiled_references hm hcompile hc, fun c hc => ?_⟩
  obtain ⟨text, htext⟩ := Target.python.exists_classFile "" (compiled_formed hm hcompile c hc)
  have hpython : ClassFile.python c = .ok text := htext
  rw [ClassFile.python_eq] at hpython ⊢
  obtain ⟨body, hbody, -⟩ := Success.map_eq_ok.mp hpython
  refine ⟨body, hbody, ?_, unhidden_body_iff hbody⟩
  rw [hbody]
  rfl

end Manifest

namespace Sample

/-- An item refers to its tag, and a tag to nothing. -/
theorem compiled_refers {a b : String} (h : compiled.Refers a b) : a = "Item" ∧ b = "Tag" := by
  obtain ⟨c, hc, rfl, hb⟩ := h
  have hmentioned := ClassDecl.mem_references hb
  rcases List.mem_cons.mp hc with rfl | hc
  · simp [tagClass, label, TypeRef.classes, TypeRef.string] at hmentioned
  · obtain rfl := List.mem_singleton.mp hc
    simp [itemClass, itemTag, itemTitle, itemSame, TypeRef.classes, TypeRef.string,
      TypeRef.boolean] at hmentioned
    exact ⟨rfl, hmentioned⟩

/-- A class whose objects may hold one of another class. -/
def pointing (name target : String) : Declaration where
  name := name
  base := none
  members := [.field "other" 2 (some (.constant .none))
    (some (.subscript (.name "Optional") (.name target)))]
  source := "pair.py"
  line := 1

def pointingClass (name target : String) : ClassDecl :=
  { name := name, properties := [{ name := "other", type := .nullable (.reference target) }],
    source := some "pair.py" }

/-- Two classes that refer to each other. -/
def pair : Manifest := ⟨[pointingClass "A" "B", pointingClass "B" "A"]⟩

theorem pair_circular : TransGen pair.Refers "A" "A" := by
  have hab : pair.Refers "A" "B" := ⟨pointingClass "A" "B", List.mem_cons_self, rfl,
    ClassDecl.mem_references_iff.mpr ⟨by decide, .inr ⟨_, List.mem_cons_self, List.mem_cons_self⟩⟩⟩
  have hba : pair.Refers "B" "A" :=
    ⟨pointingClass "B" "A", List.mem_cons_of_mem _ List.mem_cons_self, rfl,
      ClassDecl.mem_references_iff.mpr
        ⟨by decide, .inr ⟨_, List.mem_cons_self, List.mem_cons_self⟩⟩⟩
  exact .tail (.single hab) hba

/-- A class with a property that is named like the function its second one calls. -/
def form : Declaration where
  name := "Form"
  base := none
  members := [.field "field" 2 (some (.constant (.text ""))) none,
    .field "entries" 3 none (some (.subscript (.name "List") (.name "Entry")))]
  source := "pages.py"
  line := 3

def formClass : ClassDecl :=
  { name := "Form",
    properties := [{ name := "field", type := .string, default := .text "" },
      { name := "entries", type := .sequence (.reference "Entry") }],
    source := some "pages.py" }

def forms : Manifest := ⟨[pageClass "Entry", formClass]⟩

end Sample

/-- The module of the tags runs before the one of the items. -/
theorem Manifest.package_runs_tagged :
    (Sample.compiled.classes.map Target.python.fileName).Nodup ∧
      Sample.compiled.Importable ∧ ∃ body,
      (Sample.itemClass .boolean Sample.sameExpr).properties.mapM PropertyDecl.statement =
        .ok body ∧ BodyStatement.Unhidden [] body := by
  have hfiles : (Sample.compiled.classes.map Target.python.fileName).Nodup := by decide +kernel
  obtain ⟨-, himportable, hbodies⟩ := package_runs Sample.built_eq Sample.compiled_eq hfiles
  refine ⟨hfiles, himportable.mpr ⟨fun a hcycle => ?_, by decide +kernel⟩, ?_⟩
  · obtain ⟨b, hab, -⟩ := TransGen.head'_iff.mp hcycle
    obtain ⟨c, -, hca⟩ := TransGen.tail'_iff.mp hcycle
    have hne : "Item" ≠ "Tag" := by decide
    exact hne ((Sample.compiled_refers hab).1.symm.trans (Sample.compiled_refers hca).2)
  · obtain ⟨body, hbody, -, hunhidden⟩ := hbodies (Sample.itemClass .boolean Sample.sameExpr)
      (List.mem_cons_of_mem _ List.mem_cons_self)
    exact ⟨body, hbody, hunhidden.mpr (by decide)⟩

/-- Classes that refer to each other, a class that is named like a keyword, and a property that is
named like a function of the module. -/
theorem Manifest.package_broken :
    (Resolve.manifest [Sample.pointing "A" "B", Sample.pointing "B" "A"] = .ok Sample.pair ∧
      Sample.pair.compile = .ok Sample.pair ∧
      (Sample.pair.classes.map Target.python.fileName).Nodup ∧ ¬Sample.pair.Importable) ∧
    (Resolve.manifest [Sample.page "Class", Sample.page "Page"] =
        .ok (Sample.pages "Class" "Page") ∧
      (Sample.pages "Class" "Page").compile = .ok (Sample.pages "Class" "Page") ∧
      ((Sample.pages "Class" "Page").classes.map Target.python.fileName).Nodup ∧
      ¬(Sample.pages "Class" "Page").Importable) ∧
    Resolve.manifest [Sample.page "Entry", Sample.form] = .ok Sample.forms ∧
      Sample.forms.compile = .ok Sample.forms ∧
      (Sample.forms.classes.map Target.python.fileName).Nodup ∧
      ∃ body, Sample.formClass.properties.mapM PropertyDecl.statement = .ok body ∧
        ¬BodyStatement.Unhidden [] body := by
  refine ⟨⟨rfl, rfl, by decide +kernel, fun h => ?_⟩, ⟨rfl, rfl, by decide +kernel, fun h => ?_⟩,
    rfl, rfl, by decide +kernel, ?_⟩
  · exact Manifest.acyclic_of_importable (by decide) h "A" Sample.pair_circular
  · have hmodule := h.isModuleName (c := Sample.pageClass "Class") List.mem_cons_self
    exact absurd hmodule (by decide +kernel)
  · obtain ⟨body, hbody⟩ : ∃ body,
      Sample.formClass.properties.mapM PropertyDecl.statement = .ok body := ⟨_, rfl⟩
    refine ⟨body, hbody, fun hunhidden => ?_⟩
    exact absurd ((unhidden_body_iff hbody).mp hunhidden) (by decide)

end ViewModel
