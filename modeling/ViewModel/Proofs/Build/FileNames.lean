import ViewModel.Proofs.Accessor.Progress
import ViewModel.Proofs.Build.Accepted
import ViewModel.Proofs.Build.Outputs
import ViewModel.Proofs.Text.Words

/-!
The files of a build. Targets other than Python name a file after its class; Python spells the name
in snake case, so that classes keep files of their own as long as their names are made of different
words.
-/

namespace ViewModel

namespace ClassFile

theorem snake_inj {a b : String} :
    snake a = snake b ↔ Text.smallWords a.toList = Text.smallWords b.toList := by
  rw [snake, snake, String.ofList_inj, Text.snakeCase_inj]

end ClassFile

namespace Target

variable {g : Target} {c d : ClassDecl} {m : Manifest} {name : String}

theorem fileName_inj : g.fileName c = g.fileName d ↔
    if g = .python then Text.smallWords c.name.toList = Text.smallWords d.name.toList
    else c.name = d.name := by
  cases g with
  | csharp => simp [fileName]
  | typescript => simp [fileName]
  | python => simp [fileName, ClassFile.snake_inj]

/-- A class file is never the file of the package. -/
theorem fileName_ne_package (g : Target) (c : ClassDecl) : g.fileName c ≠ "__init__.py" := by
  intro h
  have hchars := congrArg String.toList h
  cases g with
  | csharp =>
    have hlast := congrArg List.getLast? hchars
    simp [fileName] at hlast
  | typescript =>
    have hlast := congrArg List.getLast? hchars
    simp [fileName] at hlast
  | python =>
    have hsnake : Text.snakeCase c.name.toList = "__init__".toList :=
      List.append_cancel_right (show _ ++ ".py".toList = "__init__".toList ++ ".py".toList by
        simpa [fileName, ClassFile.snake] using hchars)
    have hhead : (Text.snakeCase c.name.toList).head? = some '_' := by rw [hsnake]; rfl
    exact absurd (Text.snakeCase_head hhead) (by decide)

theorem isEntryName_fileName (h : '/' ∉ c.name.toList) : IsEntryName (g.fileName c) := by
  have hlength : 3 ≤ (g.fileName c).length := by
    cases g <;> rw [fileName, String.length_append] <;> exact Nat.le_add_left 3 _
  have hne : ∀ short : String, short.length < 3 → g.fileName c ≠ short := by
    rintro short hshort rfl
    omega
  refine ⟨?_, hne _ (by decide), hne _ (by decide), hne _ (by decide)⟩
  cases g with
  | csharp => simpa [fileName] using h
  | typescript => simpa [fileName] using h
  | python =>
    have hsnake : '/' ∉ Text.snakeCase c.name.toList := fun hmem =>
      absurd (Text.mem_snakeCase hmem) (by decide)
    simpa [fileName, ClassFile.snake] using hsnake

theorem isEntryName_name (g : Target) : IsEntryName g.name := by
  constructor <;> cases g <;> decide

/-- The file that makes a package of the classes, where a target has one. -/
def packageNames : Target → List String
  | python => ["__init__.py"]
  | _ => []

/-- The names of the files of a target, in the order of writing. -/
def fileNames (g : Target) (m : Manifest) : List String :=
  m.classes.map g.fileName ++ g.packageNames

theorem isEntryName_of_mem (h : ∀ c ∈ m.classes, '/' ∉ c.name.toList)
    (hname : name ∈ g.fileNames m) : IsEntryName name := by
  rcases List.mem_append.mp hname with hname | hname
  · obtain ⟨c, hc, rfl⟩ := List.mem_map.mp hname
    exact isEntryName_fileName (h c hc)
  · cases g with
    | python =>
      obtain rfl := List.mem_singleton.mp hname
      constructor <;> decide
    | csharp => cases hname
    | typescript => cases hname

theorem nodup_fileNames : (g.fileNames m).Nodup ↔ (m.classes.map g.fileName).Nodup := by
  have hpackage : g.packageNames.Nodup := by cases g <;> decide
  have happart : ∀ a ∈ m.classes.map g.fileName, ∀ b ∈ g.packageNames, a ≠ b := by
    intro a ha b hb
    obtain ⟨c, -, rfl⟩ := List.mem_map.mp ha
    cases g with
    | python => exact List.mem_singleton.mp hb ▸ fileName_ne_package _ c
    | csharp => cases hb
    | typescript => cases hb
  rw [fileNames, List.nodup_append]
  exact ⟨fun h => h.1, fun h => ⟨h, hpackage, happart⟩⟩

end Target

namespace Manifest

variable {m : Manifest} {g : Target}

/-- Distinct names of classes are made of different words, whatever the case of their letters. -/
def WordsApart (m : Manifest) : Prop :=
  ∀ a ∈ m.names, ∀ b ∈ m.names, Text.smallWords a.toList = Text.smallWords b.toList → a = b

instance (m : Manifest) : Decidable m.WordsApart :=
  inferInstanceAs (Decidable (∀ a ∈ m.names, ∀ b ∈ m.names, _ → _))

/-- Distinct classes have distinct files, but for Python only if words tell their names apart. -/
theorem nodup_classFiles (hnames : m.names.Nodup) :
    (m.classes.map g.fileName).Nodup ↔ (g = .python → m.WordsApart) := by
  have hinj : ∀ c ∈ m.classes, ∀ d ∈ m.classes, c.name = d.name → c = d :=
    List.inj_on_of_nodup_map hnames
  constructor
  · rintro h rfl _ ha _ hb hwords
    obtain ⟨c, hc, rfl⟩ := List.mem_map.mp ha
    obtain ⟨d, hd, rfl⟩ := List.mem_map.mp hb
    have hfile : Target.python.fileName c = Target.python.fileName d := by
      rwa [Target.fileName_inj, if_pos rfl]
    exact congrArg _ (List.inj_on_of_nodup_map h hc hd hfile)
  · intro h
    refine hnames.of_map.map_on fun c hc d hd hfile => hinj c hc d hd ?_
    rw [Target.fileName_inj] at hfile
    split at hfile
    · next hg => exact h hg _ (List.mem_map_of_mem hc) _ (List.mem_map_of_mem hd) hfile
    · exact hfile

end Manifest

namespace Project

open FileTree (PlacedApart)

variable {c : Config} {m : Manifest} {g g' : Target} {es es' : List (String × String)}

/-- The files of a target lie in its directory, under their names. -/
theorem targetEntries_names (h : targetEntries c m g = .ok es) :
    List.Forall₂ (fun name e => ∃ directory, targetDirectory c g = .ok directory ∧
      joinPath directory name = e.1) (g.fileNames m) es := by
  obtain ⟨files, hfiles, hpackage⟩ := Success.bind_eq_ok.mp h
  have hclasses : List.Forall₂ (fun name e => ∃ directory, targetDirectory c g = .ok directory ∧
      joinPath directory name = e.1) (m.classes.map g.fileName) files := by
    rw [List.forall₂_map_left_iff]
    exact (Success.mapM_eq_ok.mp hfiles).imp fun d e he => (classEntry_eq_ok.mp he).2
  cases g with
  | python =>
    obtain ⟨e, he, hes⟩ := Success.bind_eq_ok.mp hpackage
    obtain rfl := Success.pure_eq_ok.mp hes
    obtain ⟨directory, hdirectory, he⟩ := Success.bind_eq_ok.mp he
    obtain rfl := Success.pure_eq_ok.mp he
    exact List.rel_append hclasses (.cons ⟨directory, hdirectory, rfl⟩ .nil)
  | csharp =>
    obtain rfl := Success.pure_eq_ok.mp hpackage
    simpa [Target.fileNames, Target.packageNames] using hclasses
  | typescript =>
    obtain rfl := Success.pure_eq_ok.mp hpackage
    simpa [Target.fileNames, Target.packageNames] using hclasses

theorem exists_classEntry (h : targetEntries c m g = .ok es) {d : ClassDecl}
    (hd : d ∈ m.classes) : ∃ e ∈ es, classEntry c g d = .ok e := by
  obtain ⟨files, hfiles, hpackage⟩ := Success.bind_eq_ok.mp h
  obtain ⟨e, he, hentry⟩ := Success.exists_right (Success.mapM_eq_ok.mp hfiles) hd
  refine ⟨e, ?_, hentry⟩
  cases g with
  | python =>
    obtain ⟨package, -, hes⟩ := Success.bind_eq_ok.mp hpackage
    exact Success.pure_eq_ok.mp hes ▸ List.mem_append_left _ he
  | csharp => exact Success.pure_eq_ok.mp hpackage ▸ he
  | typescript => exact Success.pure_eq_ok.mp hpackage ▸ he

theorem targetDirectory_eq_ok {directory : String} :
    targetDirectory c g = .ok directory ↔ ∃ out, textOf c.outputDir = .ok out ∧
      directory = if 1 < c.targets.length then joinPath out g.name else out := by
  simp only [targetDirectory, Success.bind_eq_ok, Success.pure_eq_ok, @eq_comm _ directory]

/-- The files of one target lie apart if their names do. -/
theorem targetEntries_apart (hflat : ∀ d ∈ m.classes, '/' ∉ d.name.toList)
    (hnodup : (g.fileNames m).Nodup) (h : targetEntries c m g = .ok es) :
    es.Pairwise fun a b => PlacedApart a.1 b.1 := by
  refine Success.pairwise_right ?_ (targetEntries_names h) (List.Pairwise.and_mem.mp hnodup)
  rintro name name' e e' ⟨hname, hname', hne⟩ ⟨directory, -, he⟩ ⟨directory', -, he'⟩
  rw [← he, ← he']
  exact FileTree.placedApart_of_name (Target.isEntryName_of_mem hflat hname)
    (Target.isEntryName_of_mem hflat hname') hne

/-- The files of different targets lie in different directories. -/
theorem targetEntries_elsewhere (hflat : ∀ d ∈ m.classes, '/' ∉ d.name.toList)
    (hg : g ∈ c.targets) (hg' : g' ∈ c.targets) (hne : g ≠ g')
    (h : targetEntries c m g = .ok es) (h' : targetEntries c m g' = .ok es') :
    ∀ e ∈ es, ∀ e' ∈ es', PlacedApart e.1 e'.1 := by
  intro e he e' he'
  obtain ⟨name, hname, directory, hdirectory, hpath⟩ :=
    Success.exists_left (targetEntries_names h) he
  obtain ⟨name', hname', directory', hdirectory', hpath'⟩ :=
    Success.exists_left (targetEntries_names h') he'
  have hmany : 1 < c.targets.length := by
    by_contra hfew
    obtain ⟨only, honly⟩ := List.length_eq_one_iff.mp
      (Nat.le_antisymm (Nat.not_lt.mp hfew) (List.length_pos_of_mem hg))
    rw [honly, List.mem_singleton] at hg hg'
    exact hne (hg.trans hg'.symm)
  obtain ⟨out, hout, rfl⟩ := targetDirectory_eq_ok.mp hdirectory
  obtain ⟨out', hout', rfl⟩ := targetDirectory_eq_ok.mp hdirectory'
  obtain rfl := Except.ok.inj (hout.symm.trans hout')
  rw [if_pos hmany] at hpath hpath'
  rw [← hpath, ← hpath']
  refine FileTree.placedApart_of_directory g.isEntryName_name g'.isEntryName_name
    (Target.isEntryName_of_mem hflat hname) (Target.isEntryName_of_mem hflat hname') ?_
  cases g <;> cases g' <;> first | exact absurd rfl hne | decide

/-- Where paths differ, names do. -/
theorem nodup_of_paths (h : targetEntries c m g = .ok es) (hpaths : (es.map Prod.fst).Nodup) :
    (g.fileNames m).Nodup := by
  refine Success.pairwise_right (S := fun a b : String × String => a.1 ≠ b.1) ?_
    (targetEntries_names h).flip (List.pairwise_map.mp hpaths)
  rintro e e' name name' hne ⟨directory, hdirectory, he⟩ ⟨directory', hdirectory', he'⟩ rfl
  obtain rfl := Except.ok.inj (hdirectory.symm.trans hdirectory')
  exact hne (he.symm.trans he')

variable {t t' : FileTree} {written : List (List String)}

/-- A run of all targets writes their files and lists the paths. -/
theorem targets_written (h : (c.targets.mapM (saveTarget c m)).Gives t written t') :
    ∃ logs, List.Forall₂ (fun g es => targetEntries c m g = .ok es) c.targets logs ∧
      written.flatten = logs.flatten.map Prod.fst ∧ FileTree.Writes t logs.flatten t' := by
  obtain ⟨logs, hlogs, rfl, hwrites⟩ := Work.mapM_follows (fun _ _ => saveTarget_follows) t _ t' h
  refine ⟨logs, Success.mapM_eq_ok.mp hlogs, List.map_flatten.symm, ?_⟩
  simpa using hwrites

/-- If no target has two files of one name, all files of a build lie apart. -/
theorem entries_apart (hflat : ∀ d ∈ m.classes, '/' ∉ d.name.toList) (htargets : c.targets.Nodup)
    (hnodup : ∀ g ∈ c.targets, (g.fileNames m).Nodup) {logs : List (List (String × String))}
    (h : List.Forall₂ (fun g es => targetEntries c m g = .ok es) c.targets logs) :
    logs.flatten.Pairwise fun a b => PlacedApart a.1 b.1 := by
  refine List.pairwise_flatten.mpr ⟨fun es hes => ?_, ?_⟩
  · obtain ⟨g, hg, hentries⟩ := Success.exists_left h hes
    exact targetEntries_apart hflat (hnodup g hg) hentries
  · refine Success.pairwise_right ?_ h (List.Pairwise.and_mem.mp htargets)
    rintro g g' es es' ⟨hg, hg', hne⟩ hes hes'
    exact targetEntries_elsewhere hflat hg hg' hne hes hes'

end Project

namespace Manifest

open Source (Declaration)

variable {all : List Declaration} {m m' : Manifest}

theorem names_nodup (hm : Resolve.manifest all = .ok m) : m.names.Nodup := by
  rw [← map_name_outlines]
  exact (Resolve.linked_of_manifest hm).names

theorem compiled_names (hcompile : m.compile = .ok m') : m'.names = m.names := by
  obtain ⟨done, -, rfl⟩ := compile_outcome hcompile
  rw [Accessor.Progress.names_apply]

/-- The files of a build: those of each target have names of their own, for Python if and only if
words tell the names of the classes apart. A run of distinct targets lists distinct paths under the
same condition, and then each class is read back from its file. -/
theorem files_apart (hm : Resolve.manifest all = .ok m) (hflat : ∀ d ∈ all, '/' ∉ d.name.toList) :
    (∀ g : Target, (∀ c ∈ m.classes, g.fileName c ≠ "__init__.py") ∧
      ((m.classes.map g.fileName).Nodup ↔ (g = .python → m.WordsApart))) ∧
    ∀ m', m.compile = .ok m' →
      ∀ (config : Config) (t t' : FileTree) (written : List (List String)),
        config.targets.Nodup →
        (config.targets.mapM (Project.saveTarget config m')).Gives t written t' →
        (written.flatten.Nodup ↔ (.python ∈ config.targets → m.WordsApart)) ∧
        ((.python ∈ config.targets → m.WordsApart) →
          ∀ g ∈ config.targets, ∀ c ∈ m'.classes, ∃ directory text,
            Project.targetDirectory config g = .ok directory ∧
            g.classFile config.space.shown c = .ok text ∧
            joinPath directory (g.fileName c) ∈ written.flatten ∧
            t'.read (joinPath directory (g.fileName c)) = .ok text) := by
  refine ⟨fun g => ⟨fun c _ => g.fileName_ne_package c, nodup_classFiles (names_nodup hm)⟩, ?_⟩
  intro m' hcompile
  have hkept := compiled_names hcompile
  have hnames : m'.names.Nodup := hkept ▸ names_nodup hm
  have hflat' : ∀ c ∈ m'.classes, '/' ∉ c.name.toList := by
    intro c hc
    have hmem : c.name ∈ m'.names := List.mem_map_of_mem hc
    rw [hkept, Resolve.names_of_manifest hm] at hmem
    obtain ⟨d, hd, hname⟩ := List.mem_map.mp hmem
    exact hname ▸ hflat d hd
  have hapart : m.WordsApart ↔ m'.WordsApart := by rw [WordsApart, WordsApart, hkept]
  rw [hapart]
  intro config t t' written htargets hrun
  obtain ⟨logs, hlogs, hlisted, hwrites⟩ := Project.targets_written hrun
  have hplaces : (.python ∈ config.targets → m'.WordsApart) →
      logs.flatten.Pairwise fun a b => t'.locate? a.1 ≠ t'.locate? b.1 := fun hwords =>
    hwrites.places (Project.entries_apart hflat' htargets (fun g hg =>
      Target.nodup_fileNames.mpr
        ((nodup_classFiles hnames).mpr fun hpython => hwords (hpython ▸ hg))) hlogs)
  refine ⟨⟨fun hnodup hpython => ?_, fun hwords => ?_⟩, fun hwords g hg c hc => ?_⟩
  · obtain ⟨es, hes, hentries⟩ := Success.exists_right hlogs hpython
    rw [hlisted] at hnodup
    have hpaths := hnodup.sublist ((List.sublist_flatten_of_mem hes).map Prod.fst)
    exact (nodup_classFiles hnames).mp
      (Target.nodup_fileNames.mp (Project.nodup_of_paths hentries hpaths)) rfl
  · rw [hlisted]
    exact List.pairwise_map.mpr ((hplaces hwords).imp fun hab heq => hab (congrArg _ heq))
  · obtain ⟨es, hes, hentries⟩ := Success.exists_right hlogs hg
    obtain ⟨e, he, hentry⟩ := Project.exists_classEntry hentries hc
    obtain ⟨htext, directory, hdirectory, hpath⟩ := Project.classEntry_eq_ok.mp hentry
    have hmem : e ∈ logs.flatten := List.mem_flatten.mpr ⟨es, hes, he⟩
    refine ⟨directory, e.2, hdirectory, htext, ?_, ?_⟩
    · rw [hlisted, hpath]
      exact List.mem_map_of_mem hmem
    · rw [hpath]
      exact hwrites.read (hplaces hwords) e hmem

end Manifest

namespace Sample

open Source (Declaration)

/-- A class without members. -/
def page (name : String) : Declaration where
  name := name
  base := none
  members := []
  source := "pages.py"
  line := 1

def pageClass (name : String) : ClassDecl := { name := name, source := some "pages.py" }

def pages (first second : String) : Manifest := ⟨[pageClass first, pageClass second]⟩

def pageConfig (targets : List Target) : Config := { outputDir := .text "out", targets := targets }

def pageRun (targets : List Target) (m : Manifest) : Work (List (List String)) :=
  targets.mapM (Project.saveTarget (pageConfig targets) m)

/-- What a run of the targets leaves of an empty tree. -/
def pageTree (targets : List Target) (m : Manifest) : FileTree :=
  (Id.run ((pageRun targets m).run.run {})).2

end Sample

/-- A page and its list have different words in their names. -/
theorem Manifest.files_apart_pages :
    Resolve.manifest [Sample.page "HTMLPage", Sample.page "HTMLPageList"] =
        .ok (Sample.pages "HTMLPage" "HTMLPageList") ∧
      (Sample.pageRun [.csharp, .python] (Sample.pages "HTMLPage" "HTMLPageList")).Gives {}
        [["out/csharp/HTMLPage.cs", "out/csharp/HTMLPageList.cs"],
          ["out/python/html_page.py", "out/python/html_page_list.py", "out/python/__init__.py"]]
        (Sample.pageTree [.csharp, .python] (Sample.pages "HTMLPage" "HTMLPageList")) ∧
      ∃ text, ClassFile.python (Sample.pageClass "HTMLPageList") = .ok text ∧
        (Sample.pageTree [.csharp, .python] (Sample.pages "HTMLPage" "HTMLPageList")).read
          "out/python/html_page_list.py" = .ok text := by
  have hbuilt : Resolve.manifest [Sample.page "HTMLPage", Sample.page "HTMLPageList"] =
      .ok (Sample.pages "HTMLPage" "HTMLPageList") := rfl
  have hrun : (Sample.pageRun [.csharp, .python] (Sample.pages "HTMLPage" "HTMLPageList")).Gives {}
      [["out/csharp/HTMLPage.cs", "out/csharp/HTMLPageList.cs"],
        ["out/python/html_page.py", "out/python/html_page_list.py", "out/python/__init__.py"]]
      (Sample.pageTree [.csharp, .python] (Sample.pages "HTMLPage" "HTMLPageList")) :=
    Work.gives_of_toOption (by decide +kernel)
  obtain ⟨-, hfiles⟩ := files_apart hbuilt (by decide)
  obtain ⟨-, hread⟩ := hfiles _ rfl _ {} _ _ (by decide) hrun
  obtain ⟨directory, text, hdirectory, htext, -, htree⟩ := hread (fun _ => by decide +kernel)
    .python (by decide) (Sample.pageClass "HTMLPageList")
    (List.mem_cons_of_mem _ List.mem_cons_self)
  obtain ⟨out, hout, rfl⟩ := Project.targetDirectory_eq_ok.mp hdirectory
  obtain rfl : "out" = out := Except.ok.inj hout
  have hpath : joinPath (joinPath "out" "python") "html_page_list.py" =
      "out/python/html_page_list.py" := by decide +kernel
  exact ⟨hbuilt, hrun, text, htext, hpath ▸ htree⟩

/-- Names of the same words go to one file for Python, which keeps the class that comes last. -/
theorem Manifest.files_apart_same_words :
    Resolve.manifest [Sample.page "HTMLPage", Sample.page "HtmlPage"] =
        .ok (Sample.pages "HTMLPage" "HtmlPage") ∧
      (Sample.pages "HTMLPage" "HtmlPage").compile = .ok (Sample.pages "HTMLPage" "HtmlPage") ∧
      ¬ ((Sample.pages "HTMLPage" "HtmlPage").classes.map Target.python.fileName).Nodup ∧
      (Sample.pageRun [.python] (Sample.pages "HTMLPage" "HtmlPage")).Gives {}
        [["out/html_page.py", "out/html_page.py", "out/__init__.py"]]
        (Sample.pageTree [.python] (Sample.pages "HTMLPage" "HtmlPage")) ∧
      ∃ text, ClassFile.python (Sample.pageClass "HTMLPage") = .ok text ∧
        (Sample.pageTree [.python] (Sample.pages "HTMLPage" "HtmlPage")).read
          "out/html_page.py" ≠ .ok text := by
  obtain ⟨text, htext⟩ := Option.isSome_iff_exists.mp
    (by decide +kernel : (ClassFile.python (Sample.pageClass "HTMLPage")).toOption.isSome)
  have hlost : ((Sample.pageTree [.python] (Sample.pages "HTMLPage" "HtmlPage")).read
      "out/html_page.py").toOption ≠ (ClassFile.python (Sample.pageClass "HTMLPage")).toOption := by
    decide +kernel
  refine ⟨rfl, rfl, by decide +kernel, Work.gives_of_toOption (by decide +kernel), text,
    Success.toOption_eq_some.mp htext, fun hread => hlost ?_⟩
  rw [htext, Success.toOption_eq_some.mpr hread]

end ViewModel
