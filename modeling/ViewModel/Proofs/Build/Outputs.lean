import ViewModel.Project
import ViewModel.Proofs.Files.Tree
import ViewModel.Proofs.Success

/-!
What the run of a target writes: the file of each class in order, then the file of the package where
the target has one.
-/

namespace ViewModel

open FileTree (Writes)

namespace Work

variable {α β γ : Type} {t t' : FileTree}

/-- The work succeeds on a tree and leaves another one. -/
def Gives (w : Work α) (t : FileTree) (a : α) (t' : FileTree) : Prop :=
  Id.run (w.run.run t) = (.ok a, t')

theorem gives_of_toOption {w : Work α} {a : α} (h : (Id.run (w.run.run t)).1.toOption = some a) :
    w.Gives t a (Id.run (w.run.run t)).2 :=
  Prod.ext (Success.toOption_eq_some.mp h) rfl

theorem bind_gives {w : Work α} {f : α → Work β} {b : β} :
    (w >>= f).Gives t b t' ↔ ∃ a s, w.Gives t a s ∧ (f a).Gives s b t' := by
  have hrun : Id.run ((w >>= f).run.run t) =
      match Id.run (w.run.run t) with
      | (.ok a, s) => Id.run ((f a).run.run s)
      | (.error e, s) => (.error e, s) := by
    simp only [ExceptT.run_bind, StateT.run_bind, Id.run_bind]
    rcases Id.run (w.run.run t) with ⟨_ | _, _⟩ <;> rfl
  simp only [Gives, hrun]
  rcases Id.run (w.run.run t) with ⟨_ | a, s⟩ <;> simp

theorem pure_gives {a b : α} : (pure a : Work α).Gives t b t' ↔ a = b ∧ t = t' := by
  simp [Gives]

theorem lift_gives {x : Except BuildFailure α} {a : α} :
    (lift x).Gives t a t' ↔ x = .ok a ∧ t = t' := by
  cases x with
  | error e => simp [lift, Gives]
  | ok x => simp [lift, pure_gives]

theorem get_gives {s : FileTree} : (get : Work FileTree).Gives t s t' ↔ t = s ∧ t = t' := by
  change (Except.ok t, t) = (Except.ok s, t') ↔ _
  simp

theorem set_gives {s : FileTree} {u : Unit} : (set s : Work Unit).Gives t u t' ↔ s = t' := by
  change (Except.ok (), s) = (Except.ok u, t') ↔ _
  simp

theorem save_gives {path text : String} {u : Unit} :
    (save path text).Gives t u t' ↔ t.write path text = .ok t' := by
  simp [save, bind_gives, lift_gives, get_gives, set_gives, Success.mapError_eq_ok]

theorem makeDirectories_gives {path : String} {u : Unit} :
    (makeDirectories path).Gives t u t' ↔ t.makeDirectories path = .ok t' := by
  simp [makeDirectories, bind_gives, lift_gives, get_gives, set_gives, Success.mapError_eq_ok]

/-- Of a row that succeeds, each work has succeeded. -/
theorem gives_of_mapM {xs : List γ} {work : γ → Work α} {as : List α}
    (h : (xs.mapM work).Gives t as t') : ∀ x ∈ xs, ∃ s a s', (work x).Gives s a s' := by
  induction xs generalizing t t' as with
  | nil => simp
  | cons x xs ih =>
    rw [List.mapM_cons] at h
    obtain ⟨a, s, hfirst, h⟩ := bind_gives.mp h
    obtain ⟨rest, s', hrest, -⟩ := bind_gives.mp h
    exact List.forall_mem_cons.mpr ⟨⟨t, a, s, hfirst⟩, ih hrest⟩

/-- Whenever the work succeeds, what is planned can be told, the work has written just that, and it
tells of it. -/
def Follows (w : Work α) (plan : Except BuildFailure β) (log : β → List (String × String))
    (told : β → α) : Prop :=
  ∀ t a t', w.Gives t a t' → ∃ b, plan = .ok b ∧ told b = a ∧ Writes t (log b) t'

theorem mapM_follows {xs : List γ} {work : γ → Work α} {plan : γ → Except BuildFailure β}
    {log : β → List (String × String)} {told : β → α}
    (h : ∀ x ∈ xs, (work x).Follows (plan x) log told) :
    (xs.mapM work).Follows (xs.mapM plan) (fun bs => bs.flatMap log) (fun bs => bs.map told) := by
  induction xs with
  | nil =>
    intro t a t' hrun
    rw [List.mapM_nil, pure_gives] at hrun
    obtain ⟨rfl, rfl⟩ := hrun
    exact ⟨[], rfl, rfl, .done t⟩
  | cons x xs ih =>
    obtain ⟨hx, hxs⟩ := List.forall_mem_cons.mp h
    intro t a t' hrun
    simp only [List.mapM_cons, bind_gives, pure_gives] at hrun
    obtain ⟨a, s, hfirst, as, s', hrest, rfl, rfl⟩ := hrun
    obtain ⟨b, hb, rfl, hwrites⟩ := hx t a s hfirst
    obtain ⟨bs, hbs, rfl, hwrites'⟩ := ih hxs s as s' hrest
    refine ⟨b :: bs, ?_, rfl, hwrites.append hwrites'⟩
    rw [List.mapM_cons]
    exact Success.bind_of_ok hb (Success.bind_of_ok hbs rfl)

end Work

namespace Project

variable {c : Config} {m : Manifest} {g : Target} {d : ClassDecl}

/-- The file of a class: its path and its text. -/
def classEntry (c : Config) (g : Target) (d : ClassDecl) :
    Except BuildFailure (String × String) := do
  let text ← (g.classFile c.space.shown d).mapError .print
  let directory ← targetDirectory c g
  return (joinPath directory (g.fileName d), text)

def packageEntry (c : Config) (m : Manifest) : Except BuildFailure (String × String) := do
  return (joinPath (← targetDirectory c .python) "__init__.py", ClassFile.pythonPackage m)

/-- The files of a target in the order of writing. -/
def targetEntries (c : Config) (m : Manifest) (g : Target) :
    Except BuildFailure (List (String × String)) := do
  let files ← m.classes.mapM (classEntry c g)
  match g with
  | .python => return files ++ [← packageEntry c m]
  | _ => return files

theorem classEntry_eq_ok {e : String × String} : classEntry c g d = .ok e ↔
    g.classFile c.space.shown d = .ok e.2 ∧ ∃ directory,
      targetDirectory c g = .ok directory ∧ joinPath directory (g.fileName d) = e.1 := by
  simp only [classEntry, Success.bind_eq_ok, Success.mapError_eq_ok, Success.pure_eq_ok]
  constructor
  · rintro ⟨text, htext, directory, hdirectory, rfl⟩
    exact ⟨htext, directory, hdirectory, rfl⟩
  · rintro ⟨htext, directory, hdirectory, hpath⟩
    exact ⟨e.2, htext, directory, hdirectory, by rw [hpath]⟩

theorem saveClass_follows :
    (saveClass c g d).Follows (classEntry c g d) (fun e => [e]) Prod.fst := by
  intro t path t' h
  simp only [saveClass, Work.bind_gives, Work.lift_gives, Work.makeDirectories_gives,
    Work.save_gives, Work.pure_gives, Success.mapError_eq_ok] at h
  obtain ⟨text, _, ⟨htext, rfl⟩, directory, _, ⟨hdirectory, rfl⟩, _, _, hmake, _, _, hwrite,
    rfl, rfl⟩ := h
  refine ⟨(joinPath directory (g.fileName d), text), ?_, rfl, ?_⟩
  · exact classEntry_eq_ok.mpr ⟨htext, directory, hdirectory, rfl⟩
  · exact .directories hmake (.file hwrite (.done _))

theorem savePackage_follows :
    (savePackage c m).Follows (packageEntry c m) (fun e => [e]) Prod.fst := by
  intro t path t' h
  simp only [savePackage, Work.bind_gives, Work.lift_gives, Work.save_gives, Work.pure_gives] at h
  obtain ⟨directory, _, ⟨hdirectory, rfl⟩, _, _, hwrite, rfl, rfl⟩ := h
  refine ⟨(joinPath directory "__init__.py", ClassFile.pythonPackage m), ?_, rfl, ?_⟩
  · exact Success.bind_of_ok hdirectory rfl
  · exact .file hwrite (.done _)

/-- A target writes the files of the classes and of the package and lists their paths. -/
theorem saveTarget_follows :
    (saveTarget c m g).Follows (targetEntries c m g) id (fun es => es.map Prod.fst) := by
  intro t paths t' h
  -- looking up the directory first changes nothing
  have hbody : (m.classes.mapM (saveClass c g) >>= fun files =>
      match g with
      | .python => do return files ++ [← savePackage c m]
      | _ => pure files).Gives t paths t' := by
    rw [saveTarget] at h
    split at h
    · obtain ⟨_, s, hdirectory, h⟩ := Work.bind_gives.mp h
      obtain ⟨_, _, hdirectory, hend⟩ := Work.bind_gives.mp hdirectory
      obtain ⟨-, rfl⟩ := Work.lift_gives.mp hdirectory
      obtain ⟨-, rfl⟩ := Work.pure_gives.mp hend
      exact h
    · exact h
  obtain ⟨files, s, hfiles, hpackage⟩ := Work.bind_gives.mp hbody
  obtain ⟨es, hes, rfl, hwrites⟩ :=
    Work.mapM_follows (fun _ _ => saveClass_follows) t files s hfiles
  have hwrites : Writes t es s := by simpa using hwrites
  cases g with
  | python =>
    simp only [Work.bind_gives, Work.pure_gives] at hpackage
    obtain ⟨_, s', hpackage, rfl, rfl⟩ := hpackage
    obtain ⟨e, he, rfl, hwrite⟩ := savePackage_follows s _ s' hpackage
    refine ⟨es ++ [e], ?_, by simp, hwrites.append hwrite⟩
    exact Success.bind_of_ok hes (Success.bind_of_ok he rfl)
  | csharp =>
    obtain ⟨rfl, rfl⟩ := Work.pure_gives.mp hpackage
    exact ⟨es, Success.bind_of_ok hes rfl, rfl, hwrites⟩
  | typescript =>
    obtain ⟨rfl, rfl⟩ := Work.pure_gives.mp hpackage
    exact ⟨es, Success.bind_of_ok hes rfl, rfl, hwrites⟩

end Project

end ViewModel
