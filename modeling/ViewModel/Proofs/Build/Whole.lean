import ViewModel.Proofs.Build.FileNames
import ViewModel.Proofs.Target.Generated

/-!
A build is all or nothing where its settings fit. Whatever can be wrong with the classes is told
before the first file is written; after that only files and a misfit setting can stand in the way,
and if nothing does, each file of the build holds its text.
-/

namespace ViewModel

open FileTree (Writes)

namespace Work

variable {α β : Type} {w : Work α}

/-- How work ends on a tree, and what it leaves. -/
def outcome (w : Work α) (t : FileTree) : Except BuildFailure α × FileTree := Id.run (w.run.run t)

theorem outcome_bind (w : Work α) (f : α → Work β) (t : FileTree) :
    (w >>= f).outcome t =
      match w.outcome t with
      | (.ok a, s) => (f a).outcome s
      | (.error e, s) => (.error e, s) := by
  simp only [outcome, ExceptT.run_bind, StateT.run_bind, Id.run_bind]
  rcases Id.run (w.run.run t) with ⟨_ | _, _⟩ <;> rfl

/-- What work may leave of a tree, and what it may fail for. -/
structure Conduct where
  leaves : FileTree → FileTree → Prop
  fails : BuildFailure → Prop
  refl : ∀ t, leaves t t
  trans : ∀ {t t' t''}, leaves t t' → leaves t' t'' → leaves t t''

/-- Nothing but files stands in the way. -/
def Conduct.onFiles : Conduct where
  leaves _ _ := True
  fails e := ∃ f, e = .file f
  refl _ := trivial
  trans _ _ := trivial

/-- Nothing is done; at most a setting is refused. -/
def Conduct.idle : Conduct where
  leaves := Eq
  fails e := e = .settingNotText
  refl _ := rfl
  trans h h' := h.trans h'

/-- On every tree the work keeps to the conduct. -/
def Keeps (k : Conduct) (w : Work α) : Prop :=
  ∀ t, k.leaves t (w.outcome t).2 ∧ ∀ e, (w.outcome t).1 = .error e → k.fails e

namespace Keeps

variable {k : Conduct} {f : α → Work β}

theorem pure (a : α) : Keeps k (pure a) := fun t => ⟨k.refl t, fun _ hout => by cases hout⟩

theorem lift {x : Except BuildFailure α} (h : ∀ e, x = .error e → k.fails e) :
    Keeps k (Work.lift x) := by
  intro t
  cases x with
  | ok a => exact pure a t
  | error e' => exact ⟨k.refl t, fun e hout => h e (congrArg Except.error (Except.error.inj hout))⟩

theorem lift_ok {x : Except BuildFailure α} (h : ∃ a, x = .ok a) : Keeps k (Work.lift x) := by
  obtain ⟨a, rfl⟩ := h
  exact lift fun e he => by cases he

theorem bind (hw : Keeps k w) (hf : ∀ a, Keeps k (f a)) : Keeps k (w >>= f) := by
  intro t
  obtain ⟨hleaves, hfails⟩ := hw t
  rw [outcome_bind]
  rcases hfirst : w.outcome t with ⟨e' | a, s⟩ <;> rw [hfirst] at hleaves hfails
  · exact ⟨hleaves, fun e hout => hfails e (congrArg Except.error (Except.error.inj hout))⟩
  · exact ⟨k.trans hleaves (hf a s).1, (hf a s).2⟩

/-- After what is refused nothing more is done. -/
theorem lift_bind {x : Except BuildFailure α} (h : ∃ e, x = .error e ∧ k.fails e) :
    Keeps k (Work.lift x >>= f) := by
  obtain ⟨e, rfl, he⟩ := h
  intro t
  exact ⟨k.refl t, fun e' hout => Except.error.inj hout ▸ he⟩

theorem mapM {xs : List β} {f : β → Work α} (h : ∀ x ∈ xs, Keeps k (f x)) :
    Keeps k (xs.mapM f) := by
  induction xs with
  | nil => exact pure []
  | cons x xs ih =>
    obtain ⟨hx, hxs⟩ := List.forall_mem_cons.mp h
    rw [List.mapM_cons]
    exact bind hx fun _ => bind (ih hxs) fun _ => pure _

/-- Changes of the tree fail for files only. -/
theorem onTree {change : FileTree → Except FileError FileTree} :
    Keeps .onFiles (do set (← Work.lift ((change (← get)).mapError .file))) := by
  refine bind (fun _ => ⟨trivial, fun _ hout => by cases hout⟩) fun t => ?_
  refine bind (lift fun e he => ?_) fun _ _ => ⟨trivial, fun _ hout => by cases hout⟩
  obtain ⟨f, -, rfl⟩ := Success.mapError_eq_error.mp he
  exact ⟨f, rfl⟩

theorem save (path text : String) : Keeps .onFiles (Work.save path text) := onTree

theorem makeDirectories (path : String) : Keeps .onFiles (Work.makeDirectories path) := onTree

end Keeps

end Work

/-- What a build is expected to fail for: its classes, and a source that is not read. A null
character in a source or in a type hint is refused by the reader of sources itself. -/
def BuildFailure.isForeseen : BuildFailure → Bool
  | .classes e => e.cause ≠ .nullCharacter
  | .file _ => true
  | _ => false

/-- The failures that come from the sources: one is not read, or something is wrong with the
classes. -/
inductive BuildFailure.OfSources : BuildFailure → Prop
  | file (e : FileError) : OfSources (.file e)
  | classes (e : BuildError) : OfSources (.classes e)

namespace Project

open Work (Keeps Conduct)

variable {t t' : FileTree} {c : Config} {m : Manifest} {g : Target} {e : BuildFailure}

/-! Before anything is written. -/

/-- Workers can be set to some jobs: as many as there should be, more than none, or, where there are
no jobs, as many as what is no number. -/
def CanStart (workers : Yaml.Datum) (jobs : Nat) : Prop :=
  workers = .null ∨ (∃ p, workers.position? = some p ∧ (Position.ofInt 0).lt p = true) ∨
    workers = .float .nan ∧ jobs = 0

theorem checkWorkers_eq_ok {workers : Yaml.Datum} {jobs : Nat} :
    checkWorkers workers jobs = .ok () ↔ CanStart workers jobs := by
  cases workers with
  | float x =>
    cases hx : x.position? with
    | none =>
      have hnan : x = .nan := by simpa using hx
      simp [checkWorkers, CanStart, Yaml.Datum.position?, hnan, hnan ▸ hx]
    | some p =>
      have hnumber : x ≠ .nan := by rintro rfl; cases hx
      simp [checkWorkers, CanStart, Yaml.Datum.position?, hx, hnumber]
  | _ => simp [checkWorkers, CanStart, Yaml.Datum.position?]

theorem checkWorkers_error {workers : Yaml.Datum} {jobs : Nat}
    (h : checkWorkers workers jobs = .error e) : ¬e.isForeseen := by
  have hcases : e = .noWorkers ∨ e = .workersNeverStart ∨ e = .workersNotNumber := by
    cases workers <;> grind [checkWorkers]
  rcases hcases with rfl | rfl | rfl <;> exact Bool.false_ne_true

theorem textOf_eq_ok {d : Yaml.Datum} {s : String} : textOf d = .ok s ↔ d = .text s := by
  cases d <;> simp [textOf]

theorem textOf_eq_error {d : Yaml.Datum} :
    textOf d = .error e ↔ e = .settingNotText ∧ ∀ s, d ≠ .text s := by
  cases d with
  | text s => simp [textOf]
  | _ => simp [textOf, eq_comm]

/-- The sources can be searched for, and read by workers. -/
def Searches (t : FileTree) (c : Config) : Prop :=
  ∃ input pattern, c.inputDir = .text input ∧ c.pattern = .text pattern ∧
    CanStart c.workers (t.findFiles input pattern).length

theorem ofSources_of_mapError {α : Type} {x : Except BuildError α}
    (h : x.mapError .classes = .error e) : e.OfSources := by
  obtain ⟨b, -, rfl⟩ := Success.mapError_eq_error.mp h
  exact .classes b

theorem declarations_error {paths : List String} (h : declarations t paths = .error e) :
    e.OfSources := by
  refine Success.bind_error (fun e => Success.mapM_error fun path _ e => ?_) (fun _ _ h => ?_) h
  · refine Success.bind_error (fun e h => ?_) fun _ _ => ofSources_of_mapError
    obtain ⟨f, -, rfl⟩ := Success.mapError_eq_error.mp h
    exact .file f
  · cases h

/-- Where the sources can be searched for, only they and their classes can be wrong. -/
theorem manifest_error (hsearch : Searches t c) (h : manifest t c = .error e) : e.OfSources := by
  obtain ⟨input, pattern, hinput, hpattern, hstart⟩ := hsearch
  rw [manifest, textOf_eq_ok.mpr hinput, textOf_eq_ok.mpr hpattern] at h
  change checkWorkers _ _ >>= _ = _ at h
  rw [checkWorkers_eq_ok.mpr hstart] at h
  exact Success.bind_error (fun _ => declarations_error) (fun _ _ =>
    Success.bind_error (fun _ => ofSources_of_mapError) fun _ _ => ofSources_of_mapError) h

/-- Where they cannot, the failure is none of those that are expected. -/
theorem exists_manifest_error (hsearch : ¬Searches t c) :
    ∃ e, manifest t c = .error e ∧ ¬e.isForeseen := by
  rw [manifest]
  cases hinput : textOf c.inputDir with
  | error e => exact ⟨e, rfl, (textOf_eq_error.mp hinput).1 ▸ Bool.false_ne_true⟩
  | ok input =>
    cases hpattern : textOf c.pattern with
    | error e => exact ⟨e, rfl, (textOf_eq_error.mp hpattern).1 ▸ Bool.false_ne_true⟩
    | ok pattern =>
      cases hworkers : checkWorkers c.workers (t.findFiles input pattern).length with
      | error e =>
        refine ⟨e, ?_, checkWorkers_error hworkers⟩
        change checkWorkers _ _ >>= _ = _
        rw [hworkers]
        rfl
      | ok _ =>
        exact absurd ⟨input, pattern, textOf_eq_ok.mp hinput, textOf_eq_ok.mp hpattern,
          checkWorkers_eq_ok.mp hworkers⟩ hsearch

/-- The part of a build that writes. -/
def writing (c : Config) (m : Manifest) : Work BuildReport := do
  let files ← c.targets.mapM (saveTarget c m)
  let stored ← saveManifest c m
  return ⟨m, files.flatten ++ stored⟩

/-- Nothing is written unless all classes have been compiled. -/
theorem build_outcome (c : Config) (t : FileTree) :
    (build c).outcome t =
      match manifest t c with
      | .ok m => (writing c m).outcome t
      | .error e => (.error e, t) := by
  have hget : (get : Work FileTree).outcome t = (.ok t, t) := rfl
  rw [build, Work.outcome_bind, hget]
  dsimp only
  rw [Work.outcome_bind]
  cases manifest t c <;> rfl

/-! What is written. -/

/-- The file of the manifest, where the settings name one. -/
def storedEntries (c : Config) (m : Manifest) : List (String × String) :=
  if isGiven c.manifestFile then
    match c.manifestFile with
    | .text path => [(path, (storageOf path).write m)]
    | _ => []
  else []

/-- The files of a build in the order of writing: those of each target, then the manifest. -/
def outputs (c : Config) (m : Manifest) : Except BuildFailure (List (String × String)) := do
  let files ← c.targets.mapM (targetEntries c m)
  return files.flatten ++ storedEntries c m

/-- The name of the manifest file is a text, if there is one. -/
def NamesStorage (c : Config) : Prop :=
  isGiven c.manifestFile = true → ∃ path, c.manifestFile = .text path

/-- A target has a directory of its own, or a file to put into one. -/
def NeedsDirectory (c : Config) (m : Manifest) (g : Target) : Prop :=
  1 < c.targets.length ∨ m.classes ≠ [] ∨ g = .python

/-- The directory of the files is a text, if a target needs one. -/
def NamesOutput (c : Config) (m : Manifest) : Prop :=
  ∀ g ∈ c.targets, NeedsDirectory c m g → ∃ out, c.outputDir = .text out

theorem saveManifest_follows : (saveManifest c m).Follows
    (.ok (storedEntries c m)) id (fun es => es.map Prod.fst) := by
  intro t written t' h
  refine ⟨_, rfl, ?_⟩
  rw [saveManifest] at h
  split at h
  next hgiven =>
    obtain ⟨rfl, rfl⟩ := Work.pure_gives.mp h
    have hnone : storedEntries c m = [] := if_neg (by simpa using hgiven)
    rw [hnone]
    exact ⟨rfl, .done t⟩
  next hgiven =>
    have hgiven : isGiven c.manifestFile = true := by simpa using hgiven
    split at h
    next path hpath =>
      have hone : storedEntries c m = [(path, (storageOf path).write m)] := by
        rw [storedEntries, if_pos hgiven, hpath]
      rw [hone]
      dsimp only at h
      split at h
      · simp only [Work.bind_gives, Work.makeDirectories_gives, Work.save_gives,
          Work.pure_gives] at h
        obtain ⟨_, _, hmake, _, _, hwrite, rfl, rfl⟩ := h
        exact ⟨rfl, .directories hmake (.file hwrite (.done _))⟩
      · simp only [Work.bind_gives, Work.save_gives, Work.pure_gives] at h
        obtain ⟨_, _, hwrite, rfl, rfl⟩ := h
        exact ⟨rfl, .file hwrite (.done _)⟩
    · cases h

/-- A build that succeeds has written its files and lists their paths. -/
theorem writing_follows : (writing c m).Follows
    (outputs c m) id (fun es => ⟨m, es.map Prod.fst⟩) := by
  intro t report t' h
  obtain ⟨files, s, hfiles, h⟩ := Work.bind_gives.mp h
  obtain ⟨stored, s', hstored, h⟩ := Work.bind_gives.mp h
  obtain ⟨rfl, rfl⟩ := Work.pure_gives.mp h
  obtain ⟨logs, hlogs, rfl, hwrites⟩ :=
    Work.mapM_follows (fun _ _ => saveTarget_follows) t files s hfiles
  obtain ⟨_, hentries, rfl, hwrites'⟩ := saveManifest_follows s stored s' hstored
  obtain rfl := Except.ok.inj hentries
  refine ⟨logs.flatten ++ storedEntries c m, ?_, ?_, ?_⟩
  · exact Success.bind_of_ok hlogs rfl
  · simp [List.map_flatten]
  · have hwrites : Writes t logs.flatten s := by simpa using hwrites
    exact hwrites.append hwrites'

/-! What stands in the way of writing. -/

theorem saveManifest_keeps (hstored : NamesStorage c) : Keeps .onFiles (saveManifest c m) := by
  rw [saveManifest]
  split
  · exact .pure _
  next hgiven =>
    obtain ⟨path, hpath⟩ := hstored (by simpa using hgiven)
    rw [hpath]
    dsimp only
    split
    · exact .bind (.makeDirectories _) fun _ => .bind (.save _ _) fun _ => .pure _
    · exact .bind (.save _ _) fun _ => .pure _

/-- Each class has a file in each target. -/
def Generates (c : Config) (m : Manifest) : Prop :=
  ∀ g : Target, ∀ d ∈ m.classes, ∃ text,
    (g.classFile c.space.shown d).mapError .print = (.ok text : Except BuildFailure String)

/-- A target keeps to what its classes and its package keep to. -/
theorem saveTarget_keeps {k : Conduct} (hdirectory : 1 < c.targets.length →
      Keeps k (Work.lift (targetDirectory c g)))
    (hclass : ∀ d ∈ m.classes, Keeps k (saveClass c g d))
    (hpackage : g = .python → Keeps k (savePackage c m)) : Keeps k (saveTarget c m g) := by
  rw [saveTarget]
  split
  case' isTrue hmany => refine .bind (.bind (hdirectory hmany) fun _ => .pure _) fun _ => ?_
  all_goals
    refine .bind (.mapM hclass) fun files => ?_
    cases g with
    | python => exact .bind (hpackage rfl) fun _ => .pure _
    | csharp => exact .pure _
    | typescript => exact .pure _

theorem saveTarget_onFiles (hclasses : Generates c m)
    (hout : NeedsDirectory c m g → ∃ out, c.outputDir = .text out) :
    Keeps .onFiles (saveTarget c m g) := by
  have hdirectory (hneeds : NeedsDirectory c m g) :
      ∃ directory, targetDirectory c g = .ok directory := by
    obtain ⟨out, hout⟩ := hout hneeds
    exact ⟨_, targetDirectory_eq_ok.mpr ⟨out, textOf_eq_ok.mpr hout, rfl⟩⟩
  refine saveTarget_keeps (fun hmany => .lift_ok (hdirectory (.inl hmany))) (fun d hd => ?_) ?_
  · have hsome : m.classes ≠ [] := List.ne_nil_of_mem hd
    exact .bind (.lift_ok (hclasses g d hd)) fun _ =>
      .bind (.lift_ok (hdirectory (.inr (.inl hsome)))) fun _ =>
        .bind (.makeDirectories _) fun _ => .bind (.save _ _) fun _ => .pure _
  · rintro rfl
    exact .bind (.lift_ok (hdirectory (.inr (.inr rfl)))) fun _ =>
      .bind (.save _ _) fun _ => .pure _

theorem saveTarget_idle (hclasses : Generates c m) (hout : ∀ out, c.outputDir ≠ .text out) :
    Keeps .idle (saveTarget c m g) := by
  have hdirectory (g : Target) : targetDirectory c g = .error .settingNotText := by
    rw [targetDirectory, textOf_eq_error.mpr ⟨rfl, hout⟩]
    rfl
  refine saveTarget_keeps (fun _ => .lift fun e he => ?_) (fun d hd => ?_) fun _ => ?_
  · exact Except.error.inj (he.symm.trans (hdirectory g))
  · exact .bind (.lift_ok (hclasses g d hd)) fun _ => .lift_bind ⟨_, hdirectory g, rfl⟩
  · exact .lift_bind ⟨_, hdirectory .python, rfl⟩

/-- A target that succeeds has found the directory it needs. -/
theorem directory_of_gives {paths : List String} (h : (saveTarget c m g).Gives t paths t')
    (hneeds : NeedsDirectory c m g) : ∃ out, c.outputDir = .text out := by
  have hfound : ∃ directory, targetDirectory c g = .ok directory := by
    obtain ⟨es, hes, -, -⟩ := saveTarget_follows t paths t' h
    rcases hneeds with hmany | hsome | rfl
    · rw [saveTarget, if_pos hmany] at h
      obtain ⟨_, s, hlookup, -⟩ := Work.bind_gives.mp h
      obtain ⟨directory, _, hdirectory, -⟩ := Work.bind_gives.mp hlookup
      exact ⟨directory, (Work.lift_gives.mp hdirectory).1⟩
    · obtain ⟨d, hd⟩ := List.exists_mem_of_ne_nil _ hsome
      obtain ⟨e, -, hentry⟩ := exists_classEntry hes hd
      obtain ⟨-, directory, hdirectory, -⟩ := classEntry_eq_ok.mp hentry
      exact ⟨directory, hdirectory⟩
    · obtain ⟨_, -, hpackage⟩ := Success.bind_eq_ok.mp hes
      obtain ⟨_, hentry, -⟩ := Success.bind_eq_ok.mp hpackage
      obtain ⟨directory, hdirectory, -⟩ := Success.bind_eq_ok.mp hentry
      exact ⟨directory, hdirectory⟩
  obtain ⟨directory, hdirectory⟩ := hfound
  obtain ⟨out, hout, -⟩ := targetDirectory_eq_ok.mp hdirectory
  exact ⟨out, textOf_eq_ok.mp hout⟩

/-- The settings of a build that succeeds name what it needs. -/
theorem named_of_gives {report : BuildReport} (h : (writing c m).Gives t report t') :
    NamesOutput c m ∧ NamesStorage c := by
  obtain ⟨files, s, hfiles, h⟩ := Work.bind_gives.mp h
  obtain ⟨stored, s', hstored, -⟩ := Work.bind_gives.mp h
  constructor
  · intro g hg hneeds
    obtain ⟨_, _, _, hsave⟩ := Work.gives_of_mapM hfiles g hg
    exact directory_of_gives hsave hneeds
  · intro hgiven
    rw [saveManifest, if_neg (by simpa using hgiven)] at hstored
    split at hstored
    next path hpath => exact ⟨path, hpath⟩
    next => cases hstored

theorem saveManifest_fails (h : (saveManifest c m).outcome t = (.error e, t')) :
    (∃ f, e = .file f) ∨ e = .manifestFileNotText ∧ ¬NamesStorage c := by
  by_cases hstored : NamesStorage c
  · exact .inl ((saveManifest_keeps hstored t).2 e (congrArg Prod.fst h))
  · refine .inr ⟨?_, hstored⟩
    obtain ⟨hgiven, hnot⟩ := Classical.not_imp.mp hstored
    rw [saveManifest, if_neg (by simpa using hgiven)] at h
    split at h
    next path hpath => exact absurd ⟨path, hpath⟩ hnot
    next => exact (Except.error.inj (Prod.mk.inj h).1).symm

/-- What the files of the targets can fail for. A directory that is no text is refused before
anything is written. -/
theorem targets_fail (hclasses : Generates c m)
    (h : (c.targets.mapM (saveTarget c m)).outcome t = (.error e, t')) :
    (∃ f, e = .file f) ∨ e = .settingNotText ∧ t' = t ∧ ¬NamesOutput c m := by
  by_cases hnames : NamesOutput c m
  · have hkeeps : Keeps .onFiles (c.targets.mapM (saveTarget c m)) :=
      .mapM fun g hg => saveTarget_onFiles hclasses (hnames g hg)
    exact .inl ((hkeeps t).2 e (congrArg Prod.fst h))
  · have hout : ∀ out, c.outputDir ≠ .text out := fun out heq => hnames fun _ _ _ => ⟨out, heq⟩
    have hkeeps : Keeps .idle (c.targets.mapM (saveTarget c m)) :=
      .mapM fun _ _ => saveTarget_idle hclasses hout
    obtain ⟨hleaves, hfails⟩ := hkeeps t
    rw [h] at hleaves hfails
    exact .inr ⟨hfails e rfl, hleaves.symm, hnames⟩

/-- All that writing can fail for. -/
theorem writing_fails (hclasses : Generates c m) (h : (writing c m).outcome t = (.error e, t')) :
    (∃ f, e = .file f) ∨ (e = .settingNotText ∧ t' = t ∧ ¬NamesOutput c m) ∨
      e = .manifestFileNotText ∧ ¬NamesStorage c := by
  rw [writing, Work.outcome_bind] at h
  rcases hfiles : (c.targets.mapM (saveTarget c m)).outcome t with ⟨e' | files, s⟩ <;>
    rw [hfiles] at h
  · obtain ⟨he, rfl⟩ := Prod.mk.inj h
    obtain rfl := Except.error.inj he
    exact (targets_fail hclasses hfiles).imp_right .inl
  · dsimp only at h
    rw [Work.outcome_bind] at h
    rcases hstored : (saveManifest c m).outcome s with ⟨e' | stored, s'⟩ <;> rw [hstored] at h
    · obtain ⟨he, rfl⟩ := Prod.mk.inj h
      obtain rfl := Except.error.inj he
      exact (saveManifest_fails hstored).imp_right .inr
    · cases (Prod.mk.inj h).1

theorem generates_of_manifest (h : manifest t c = .ok m) : Generates c m := by
  obtain ⟨_, -, h⟩ := Success.bind_eq_ok.mp h
  obtain ⟨_, -, h⟩ := Success.bind_eq_ok.mp h
  obtain ⟨_, -, h⟩ := Success.bind_eq_ok.mp h
  obtain ⟨all, -, h⟩ := Success.bind_eq_ok.mp h
  obtain ⟨m₀, hbuilt, hcompiled⟩ := Success.bind_eq_ok.mp h
  intro g d hd
  obtain ⟨text, htext⟩ := g.exists_classFile c.space.shown (Manifest.compiled_formed
    (Success.mapError_eq_ok.mp hbuilt) (Success.mapError_eq_ok.mp hcompiled) d hd)
  exact ⟨text, Success.mapError_eq_ok.mpr htext⟩

/-- The build is all or nothing. Either it fails for its classes or for a source that is not read,
and leaves the tree as it is; or it lists the files of each target, the package last, and then the
manifest. It has changed no other files, and where the paths lead to different places each file
holds its text. -/
def AllOrNothing (t : FileTree) (c : Config) : Prop :=
  (∃ e, (build c).outcome t = (.error e, t) ∧ e.isForeseen) ∨
  ∃ m es t', manifest t c = .ok m ∧ outputs c m = .ok es ∧
    (build c).outcome t = (.ok ⟨m, es.map Prod.fst⟩, t') ∧
    (∀ p, (∀ e ∈ es, t'.locate? e.1 ≠ some p) → t'.file? p = t.file? p) ∧
    (es.Pairwise (fun a b => t'.locate? a.1 ≠ t'.locate? b.1) → ∀ e ∈ es, t'.read e.1 = .ok e.2)

/-- The settings are of the kinds that the build relies on, and no null character is met. -/
structure Fits (t : FileTree) (c : Config) : Prop where
  searches : Searches t c
  plain : ∀ e, manifest t c = .error (.classes e) → e.cause ≠ .nullCharacter
  output : ∀ m, manifest t c = .ok m → NamesOutput c m
  storage : ∀ m, manifest t c = .ok m → NamesStorage c

theorem not_allOrNothing_of_error (h : ((build c).outcome t).1 = .error e) (he : ¬e.isForeseen) :
    ¬AllOrNothing t c := by
  rintro (⟨e', houtcome, he'⟩ | ⟨m, es, t', -, -, houtcome, -⟩)
  · rw [houtcome] at h
    exact he (Except.error.inj h ▸ he')
  · rw [houtcome] at h
    cases h

theorem fits_of_allOrNothing
    (hfiles : ∀ m, manifest t c = .ok m → ∀ f t', (build c).outcome t ≠ (.error (.file f), t'))
    (h : AllOrNothing t c) : Fits t c := by
  have hends : ∀ e, manifest t c = .error e → e.isForeseen := fun e he =>
    not_imp_comm.mp (not_allOrNothing_of_error (by rw [build_outcome, he])) (not_not_intro h)
  have hnamed : ∀ m, manifest t c = .ok m → NamesOutput c m ∧ NamesStorage c := by
    intro m hm
    rcases h with ⟨e, houtcome, he⟩ | ⟨m', es, t', -, -, houtcome, -⟩
    · have hwriting : (writing c m).outcome t = (.error e, t) := by
        rw [← houtcome, build_outcome, hm]
      rcases writing_fails (generates_of_manifest hm) hwriting with
        ⟨f, rfl⟩ | ⟨rfl, -, -⟩ | ⟨rfl, -⟩
      · exact absurd houtcome (hfiles m hm f t)
      · exact absurd he Bool.false_ne_true
      · exact absurd he Bool.false_ne_true
    · rw [build_outcome, hm] at houtcome
      have hgives : (writing c m).Gives t ⟨m', es.map Prod.fst⟩ t' := houtcome
      exact named_of_gives hgives
  refine ⟨?_, fun e he => of_decide_eq_true (hends _ he), fun m hm => (hnamed m hm).1,
    fun m hm => (hnamed m hm).2⟩
  by_contra hsearch
  obtain ⟨e, he, hunforeseen⟩ := exists_manifest_error hsearch
  exact hunforeseen (hends e he)

theorem allOrNothing_of_fits
    (hfiles : ∀ m, manifest t c = .ok m → ∀ f t', (build c).outcome t ≠ (.error (.file f), t'))
    (h : Fits t c) : AllOrNothing t c := by
  cases hmanifest : manifest t c with
  | error e =>
    refine .inl ⟨e, by rw [build_outcome, hmanifest], ?_⟩
    cases manifest_error h.searches hmanifest with
    | file f => rfl
    | classes b => exact decide_eq_true (h.plain b hmanifest)
  | ok m =>
    have houtcome : (build c).outcome t = (writing c m).outcome t := by
      rw [build_outcome, hmanifest]
    rcases hwriting : (writing c m).outcome t with ⟨e | report, t'⟩ <;> rw [hwriting] at houtcome
    · rcases writing_fails (generates_of_manifest hmanifest) hwriting with
        ⟨f, rfl⟩ | ⟨-, -, hnot⟩ | ⟨-, hnot⟩
      · exact absurd houtcome (hfiles m hmanifest f t')
      · exact absurd (h.output m hmanifest) hnot
      · exact absurd (h.storage m hmanifest) hnot
    · obtain ⟨es, hes, rfl, hwrites⟩ := writing_follows t report t' hwriting
      exact .inr ⟨m, es, t', hmanifest, hes, houtcome, fun p => hwrites.keeps, hwrites.read⟩

/-- Of the files of the targets, those with different paths lie apart. -/
theorem targetFiles_apart (hflat : ∀ d ∈ m.classes, '/' ∉ d.name.toList)
    (htargets : c.targets.Nodup) {files : List (List (String × String))}
    (h : c.targets.mapM (targetEntries c m) = .ok files)
    (hpaths : (files.flatten.map Prod.fst).Nodup) :
    files.flatten.Pairwise fun a b => FileTree.PlacedApart a.1 b.1 := by
  have hall := Success.mapM_eq_ok.mp h
  refine entries_apart hflat htargets (fun g hg => ?_) hall
  obtain ⟨es, hes, hentries⟩ := Success.exists_right hall hg
  exact nodup_of_paths hentries (hpaths.sublist ((List.sublist_flatten_of_mem hes).map Prod.fst))

/-- Unless a file stands in the way of writing, a build is all or nothing exactly if its settings
fit and no null character is met in a source or in a type hint. If they do not fit it may fail for
another reason, but it has written nothing then either, unless it fails for a manifest file that is
named by no text. Different paths lead to different places, apart from that of the manifest file,
which the settings may spell in any way. -/
theorem build_whole_iff (t : FileTree) (c : Config)
    (hfiles : ∀ m, manifest t c = .ok m → ∀ f t', (build c).outcome t ≠ (.error (.file f), t')) :
    (AllOrNothing t c ↔ Fits t c) ∧
    (∀ e t', (build c).outcome t = (.error e, t') →
      t' = t ∨ e = .manifestFileNotText ∧ ¬NamesStorage c) ∧
    ∀ m files, c.targets.mapM (targetEntries c m) = .ok files → c.targets.Nodup →
      (∀ d ∈ m.classes, '/' ∉ d.name.toList) → (files.flatten.map Prod.fst).Nodup →
      files.flatten.Pairwise fun a b => FileTree.PlacedApart a.1 b.1 := by
  refine ⟨⟨fits_of_allOrNothing hfiles, allOrNothing_of_fits hfiles⟩, fun e t' h => ?_,
    fun m files h htargets hflat => targetFiles_apart hflat htargets h⟩
  rw [build_outcome] at h
  split at h
  next m hm =>
    rcases writing_fails (generates_of_manifest hm) h with ⟨f, rfl⟩ | ⟨-, rfl, -⟩ | hstored
    · exact absurd ((build_outcome c t).trans (by rw [hm]; exact h)) (hfiles m hm f t')
    · exact .inl rfl
    · exact .inr hstored
  next => exact .inl (Prod.mk.inj h).2.symm

end Project

namespace Sample

/-- One source file, with one class. -/
def single : FileTree := .ofFiles [("in/model.py", "class A:\n    x = 1\n")]

/-- One source file, with one class and a null character. -/
def marred : FileTree := .ofFiles [("in/model.py", "class A:\n    x = 1\n\x00")]

/-- A build for one target. -/
def plainConfig : Config where
  inputDir := .text "in"
  outputDir := .text "out"
  targets := [.csharp]

/-- A build for one target, with a manifest file. -/
def storing (manifestFile : Yaml.Datum) : Config :=
  { plainConfig with manifestFile := manifestFile }

def ending (t : FileTree) (c : Config) : Except BuildFailure BuildReport × FileTree :=
  (Project.build c).outcome t

/-- The file of the class. -/
def classText : String :=
  "// <auto-generated>\n//     Generated by isomodel from A. Do not edit.\n"
    ++ "// </auto-generated>\n#nullable enable\nusing System.Collections.Generic;\n\n"
    ++ "namespace ViewModels\n\x7b\n    public class A\n    \x7b\n"
    ++ "        public int X \x7b get; set; \x7d = 1;\n    \x7d\n\x7d\n"

end Sample

namespace Project

open Sample (ending plainConfig storing single marred classText)

/-- The settings fit, and the class and the manifest are read back from their files. -/
theorem build_whole_single : Fits single (storing (.text "out/model.json")) ∧
    ∃ m es, outputs (storing (.text "out/model.json")) m = .ok es ∧
      es.map Prod.fst = ["out/A.cs", "out/model.json"] ∧
      (ending single (storing (.text "out/model.json"))).1 = .ok ⟨m, es.map Prod.fst⟩ ∧
      ∀ e ∈ es, (ending single (storing (.text "out/model.json"))).2.read e.1 = .ok e.2 := by
  let c := storing (.text "out/model.json")
  have hwritten : (ending single c).1.toOption.map BuildReport.written =
      some ["out/A.cs", "out/model.json"] := by decide +kernel
  have happart : (ending single c).2.locate? "out/A.cs" ≠
      (ending single c).2.locate? "out/model.json" := by decide +kernel
  obtain ⟨report, hreport, hpaths⟩ := Option.map_eq_some_iff.mp hwritten
  have hok : (build c).outcome single = (.ok report, (ending single c).2) :=
    Prod.ext (Success.toOption_eq_some.mp hreport) rfl
  have hfits : Fits single c := by
    refine ⟨⟨"in", "*.py", rfl, rfl, .inl rfl⟩, fun e he => ?_, fun _ _ _ _ _ => ⟨"out", rfl⟩,
      fun _ _ _ => ⟨"out/model.json", rfl⟩⟩
    rw [build_outcome, he] at hok
    cases hok
  refine ⟨hfits, ?_⟩
  rcases (build_whole_iff single c fun _ _ f t' h => by cases hok.symm.trans h).1.mpr hfits with
    ⟨e, he, -⟩ | ⟨m, es, t', -, hes, hout, -, hread⟩
  · cases hok.symm.trans he
  · obtain ⟨hsame, rfl⟩ := Prod.mk.inj (hok.symm.trans hout)
    obtain rfl := Except.ok.inj hsame
    have hpaths : es.map Prod.fst = ["out/A.cs", "out/model.json"] := hpaths
    have hpairs : (es.map Prod.fst).Pairwise fun a b =>
        (ending single c).2.locate? a ≠ (ending single c).2.locate? b := by
      rw [hpaths]
      simpa using happart
    rw [List.pairwise_map] at hpairs
    exact ⟨m, es, hes, hpaths, congrArg Prod.fst hok, hread hpairs⟩

theorem not_allOrNothing_of_ending {t : FileTree} {c : Config}
    (h : (match (ending t c).1 with
      | .error e => !e.isForeseen
      | .ok _ => false) = true) : ¬AllOrNothing t c := by
  split at h
  next e he => exact not_allOrNothing_of_error he (by simpa using h)
  next => cases h

/-- A manifest file that is no text is refused after the class has been written. Other settings that
do not fit, and a source with a null character, are refused before, but for none of the reasons that
are expected. -/
theorem build_not_whole :
    (ending single (storing (.int 5))).2.read "out/A.cs" = .ok classText ∧
      single.read "out/A.cs" ≠ .ok classText ∧ ¬AllOrNothing single (storing (.int 5)) ∧
      ¬AllOrNothing single { plainConfig with inputDir := .int 5 } ∧
      ¬AllOrNothing single { plainConfig with outputDir := .int 5 } ∧
      ¬AllOrNothing single { plainConfig with pattern := .int 5 } ∧
      ¬AllOrNothing single { plainConfig with workers := .float .nan } ∧
      ¬AllOrNothing marred plainConfig := by
  have hkept : ((ending single (storing (.int 5))).2.read "out/A.cs").toOption =
      some classText := by
    decide +kernel
  have hnew : (single.read "out/A.cs").toOption ≠ some classText := by decide +kernel
  exact ⟨Success.toOption_eq_some.mp hkept, fun h => hnew (Success.toOption_eq_some.mpr h),
    not_allOrNothing_of_ending (by decide +kernel),
    not_allOrNothing_of_ending (by decide +kernel),
    not_allOrNothing_of_ending (by decide +kernel),
    not_allOrNothing_of_ending (by decide +kernel),
    not_allOrNothing_of_ending (by decide +kernel),
    not_allOrNothing_of_ending (by decide +kernel)⟩

end Project

end ViewModel
