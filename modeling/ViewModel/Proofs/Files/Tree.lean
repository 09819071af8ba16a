import Mathlib.Data.List.Basic
import ViewModel.Files.Tree

/-!
What stays true of a tree of files while directories are made and files are written: paths lead
where they led, and a file keeps its text unless something is written in its place. So, of files
that are written in places of their own, each one reads as it was written.
-/

namespace ViewModel

/-- A name of something in a directory, so no way to the directory itself or out of it. -/
structure IsEntryName (name : String) : Prop where
  flat : '/' ∉ name.toList
  ne_empty : name ≠ ""
  ne_here : name ≠ "."
  ne_up : name ≠ ".."

section

variable {directory name : String}

/-- The names of a path into a directory: those of the directory and the one after. Empty names lead
nowhere, so a slash at the end of the directory makes no difference. -/
theorem pathNames_joinPath (hname : '/' ∉ name.toList) :
    ∃ names, (pathNames directory = names ∨ pathNames directory = names ++ [""]) ∧
      pathNames (joinPath directory name) = names ++ [name] := by
  have hone : name.toList.splitOn '/' = [name.toList] := List.splitOn_eq_singleton hname
  have hfirst : name.toList.head? ≠ some '/' := fun h => hname (List.mem_of_head? h)
  rw [joinPath, if_neg hfirst]
  by_cases hempty : directory = ""
  · subst hempty
    exact ⟨[], .inr (by decide), by simp [pathNames, hone]⟩
  · by_cases hslash : directory.toList.getLast? = some '/'
    · obtain ⟨cs, hcs⟩ := List.getLast?_eq_some_iff.mp hslash
      refine ⟨(cs.splitOn '/').map String.ofList, .inr ?_, ?_⟩
      · simp [pathNames, hcs, List.splitOn_append_cons_self]
      · simp [pathNames, hcs, List.splitOn_append_cons_self, hone]
    · refine ⟨pathNames directory, .inl rfl, ?_⟩
      simp [pathNames, hempty, hslash, List.splitOn_append_cons_self, hone]

end

namespace FileTree

variable {t t' t'' : FileTree} {p q : Place} {path text directory name : String}

theorem follow_append (t : FileTree) (here : Place) (first second : List String) :
    t.follow here (first ++ second) = (t.follow here first).bind (t.follow · second) := by
  induction first generalizing here with
  | nil => rfl
  | cons name rest ih =>
    rw [List.cons_append, follow, follow]
    split
    · exact ih here
    · split
      · split
        · exact ih _
        · rfl
      · exact ih _

theorem follow_entry (h : IsEntryName name) (here : Place) :
    t.follow here [name] = some (here ++ [name]) := by
  simp [follow, h.ne_empty, h.ne_here, h.ne_up]

/-- A path into a directory starts where the directory does. -/
theorem start_joinPath (h : IsEntryName name) :
    t.start (joinPath directory name) = t.start directory := by
  have hfirst : name.toList.head? ≠ some '/' := fun hslash => h.flat (List.mem_of_head? hslash)
  rw [joinPath, if_neg hfirst]
  by_cases hempty : directory = ""
  · simp [hempty, start, hfirst]
  · have hhead : ∀ cs : List Char, (directory.toList ++ cs).head? = directory.toList.head? := by
      simp [List.head?_append, Option.or_of_isSome, List.isSome_head?, hempty]
    split <;> simp [start, hhead]

theorem follow_joinPath (h : IsEntryName name) (here : Place) :
    t.follow here (pathNames (joinPath directory name)) =
      (t.follow here (pathNames directory)).map (· ++ [name]) := by
  obtain ⟨names, hdirectory, hpath⟩ := @pathNames_joinPath directory name h.flat
  have hlast : t.follow here (names ++ [name]) = (t.follow here names).map (· ++ [name]) := by
    rw [follow_append]
    cases t.follow here names with
    | none => rfl
    | some q => exact follow_entry h q
  rw [hpath, hlast]
  rcases hdirectory with hdirectory | hdirectory
  · rw [hdirectory]
  · have hstay : t.follow here (names ++ [""]) = t.follow here names := by
      rw [follow_append]
      simp [follow]
    rw [hdirectory, hstay]

/-- The place of a path into a directory. -/
theorem locate?_joinPath (h : IsEntryName name)
    (hp : t.locate? (joinPath directory name) = some p) :
    ∃ q, t.follow (t.start directory) (pathNames directory) = some q ∧ p = q ++ [name] := by
  rw [locate?] at hp
  split at hp
  · cases hp
  · rw [follow_joinPath h, start_joinPath h] at hp
    obtain ⟨q, hq, rfl⟩ := Option.map_eq_some_iff.mp hp
    exact ⟨q, hq, rfl⟩

/-- Directories stay directories, and work is done where it was. -/
structure Grows (t t' : FileTree) : Prop where
  home : t'.home = t.home
  directories : ∀ p, t.isDirectory p → t'.isDirectory p

theorem Grows.refl (t : FileTree) : t.Grows t := ⟨rfl, fun _ => id⟩

theorem Grows.trans (h : t.Grows t') (h' : t'.Grows t'') : t.Grows t'' :=
  ⟨h'.home.trans h.home, fun p hp => h'.directories p (h.directories p hp)⟩

theorem Grows.of_subset (hhome : t'.home = t.home) (hdirectories : t.directories ⊆ t'.directories)
    (hplaces : t.places ⊆ t'.places) : t.Grows t' := by
  refine ⟨hhome, fun p hp => ?_⟩
  simp only [isDirectory, Bool.or_eq_true, List.contains_iff_mem, List.any_eq_true] at hp ⊢
  rcases hp with (hp | hp) | ⟨q, hq, hlies⟩
  · exact .inl (.inl hp)
  · exact .inl (.inr (hhome ▸ List.cons_subset_cons _ hdirectories hp))
  · exact .inr ⟨q, hplaces hq, hlies⟩

/-- A text that is set is that of a file there, or of one more. -/
theorem keys_putText (files : List (Place × String)) (p : Place) (text : String) :
    (putText files p text).map Prod.fst =
      if p ∈ files.map Prod.fst then files.map Prod.fst else files.map Prod.fst ++ [p] := by
  induction files with
  | nil => rfl
  | cons f rest ih =>
    rw [putText]
    split
    next h => simp [h]
    next h =>
      have hne : p ≠ f.1 := fun heq => h heq.symm
      rw [List.map_cons, ih]
      split <;> simp_all

theorem map_fst_subset_putText (files : List (Place × String)) (p : Place) (text : String) :
    files.map Prod.fst ⊆ (putText files p text).map Prod.fst := by
  rw [keys_putText]
  split
  · exact List.Subset.refl _
  · exact List.subset_append_left _ _

theorem grows_put (t : FileTree) (p : Place) (text : String) : t.Grows (t.put p text) :=
  .of_subset rfl (List.Subset.refl _)
    (List.append_subset.mpr
      ⟨List.subset_append_of_subset_left _ (map_fst_subset_putText t.files p text),
        List.subset_append_right _ _⟩)

/-- Paths lead where they led. -/
theorem Grows.follow (h : t.Grows t') {here : Place} {names : List String}
    (hp : t.follow here names = some p) : t'.follow here names = some p := by
  induction names generalizing here with
  | nil => exact hp
  | cons name rest ih =>
    rw [FileTree.follow] at hp ⊢
    split at hp
    · next hstay => simpa [hstay] using ih hp
    · next hstay =>
      split at hp
      · next hup =>
        split at hp
        · next hhere =>
          rw [if_neg hstay, if_pos hup, if_pos (h.directories here hhere)]
          exact ih hp
        · cases hp
      · next hup =>
        rw [if_neg hstay, if_neg hup]
        exact ih hp

theorem Grows.locate? (h : t.Grows t') (hp : t.locate? path = some p) :
    t'.locate? path = some p := by
  have hstart : t'.start path = t.start path := by rw [start, start, h.home]
  rw [FileTree.locate?] at hp ⊢
  split at hp
  · cases hp
  · next hpath =>
    rw [if_neg hpath, hstart]
    exact h.follow hp

/-- What is written stands at the place of its path. -/
theorem write_eq_ok (h : t.write path text = .ok t') :
    ∃ p, t.locate? path = some p ∧ endsWithSlash path = false ∧ t' = t.put p text := by
  rw [write, writable] at h
  cases hp : t.locate? path with
  | none => simp [hp, Except.map] at h
  | some p =>
    refine ⟨p, rfl, ?_⟩
    rw [hp] at h
    dsimp only at h
    split at h
    · split at h
      · cases h
      · next hslash => exact ⟨by simpa using hslash, (Except.ok.inj h).symm⟩
    · split at h
      · cases h
      · split at h
        · cases h
        · split at h
          · cases h
          · next hslash => exact ⟨by simpa using hslash, (Except.ok.inj h).symm⟩

theorem grows_directory (t : FileTree) (p : Place) :
    t.Grows { t with directories := t.directories ++ [p] } := by
  refine .of_subset rfl (List.subset_append_left _ _) fun q hq => ?_
  rcases List.mem_append.mp hq with hq | hq
  · exact List.mem_append_left _ hq
  · exact List.mem_append_right _ (List.mem_append_left [p] hq)

/-- Making directories touches no file. -/
theorem makeFrom_eq_ok {here : Place} {passed names : List String}
    (h : t.makeFrom here passed names = .ok t') : t.Grows t' ∧ ∀ p, t'.file? p = t.file? p := by
  induction names generalizing t here passed with
  | nil =>
    obtain rfl := Except.ok.inj h
    exact ⟨.refl t, fun _ => rfl⟩
  | cons name rest ih =>
    rw [makeFrom] at h
    dsimp only at h
    split at h
    · exact ih h
    · split at h
      · exact ih h
      · split at h
        · exact ih h
        · split at h
          · split at h <;> cases h
          · obtain ⟨hgrows, hfiles⟩ := ih h
            exact ⟨(grows_directory t _).trans hgrows, hfiles⟩

theorem makeDirectories_eq_ok (h : t.makeDirectories path = .ok t') :
    t.Grows t' ∧ ∀ p, t'.file? p = t.file? p := by
  rw [makeDirectories] at h
  split at h
  · cases h
  · exact makeFrom_eq_ok h

/-- Directories are made and files written, these ones in this order. -/
inductive Writes : FileTree → List (String × String) → FileTree → Prop
  | done (t : FileTree) : Writes t [] t
  | directories {t t' t'' : FileTree} {path : String} {log : List (String × String)} :
      t.makeDirectories path = .ok t' → Writes t' log t'' → Writes t log t''
  | file {t t' t'' : FileTree} {path text : String} {log : List (String × String)} :
      t.write path text = .ok t' → Writes t' log t'' → Writes t ((path, text) :: log) t''

variable {log log' : List (String × String)}

theorem Writes.append (h : Writes t log t') (h' : Writes t' log' t'') :
    Writes t (log ++ log') t'' := by
  induction h with
  | done t => exact h'
  | directories hmake _ ih => exact .directories hmake (ih h')
  | file hwrite _ ih => exact .file hwrite (ih h')

theorem Writes.grows (h : Writes t log t') : t.Grows t' := by
  induction h with
  | done t => exact .refl t
  | directories hmake _ ih => exact (makeDirectories_eq_ok hmake).1.trans ih
  | file hwrite _ ih =>
    obtain ⟨p, -, -, rfl⟩ := write_eq_ok hwrite
    exact (grows_put _ p _).trans ih

/-- Every path that was written leads to a place. -/
theorem Writes.located (h : Writes t log t') :
    ∀ e ∈ log, endsWithSlash e.1 = false ∧ ∃ p, t'.locate? e.1 = some p := by
  induction h with
  | done t => simp
  | directories _ _ ih => exact ih
  | file hwrite hrest ih =>
    obtain ⟨p, hp, hslash, rfl⟩ := write_eq_ok hwrite
    refine List.forall_mem_cons.mpr ⟨⟨hslash, p, ?_⟩, ih⟩
    exact hrest.grows.locate? ((grows_put _ p _).locate? hp)

/-- Wherever both paths lead, it is to different places. -/
def PlacedApart (a b : String) : Prop :=
  ∀ (t : FileTree) (p q : Place), t.locate? a = some p → t.locate? b = some q → p ≠ q

theorem placedApart_of_name {a b other : String} (ha : IsEntryName a) (hb : IsEntryName b)
    (hne : a ≠ b) : PlacedApart (joinPath directory a) (joinPath other b) := by
  rintro t p q hp hq rfl
  obtain ⟨r, -, hr⟩ := locate?_joinPath ha hp
  obtain ⟨s, -, hs⟩ := locate?_joinPath hb hq
  have hlast := congrArg List.getLast? (hr.symm.trans hs)
  rw [List.getLast?_concat, List.getLast?_concat] at hlast
  exact hne (Option.some.inj hlast)

/-- What lies in two directories of one directory lies apart. -/
theorem placedApart_of_directory {a b name' : String} (ha : IsEntryName a) (hb : IsEntryName b)
    (hname : IsEntryName name) (hname' : IsEntryName name') (hne : a ≠ b) :
    PlacedApart (joinPath (joinPath directory a) name) (joinPath (joinPath directory b) name') := by
  rintro t p q hp hq rfl
  obtain ⟨r, hr, hpr⟩ := locate?_joinPath hname hp
  obtain ⟨s, hs, hps⟩ := locate?_joinPath hname' hq
  obtain rfl : r = s := by
    have hinit := congrArg List.dropLast (hpr.symm.trans hps)
    rwa [List.dropLast_concat, List.dropLast_concat] at hinit
  rw [follow_joinPath ha, start_joinPath ha] at hr
  rw [follow_joinPath hb, start_joinPath hb] at hs
  obtain ⟨r', -, hr⟩ := Option.map_eq_some_iff.mp hr
  obtain ⟨s', -, hs⟩ := Option.map_eq_some_iff.mp hs
  have hlast := congrArg List.getLast? (hr.trans hs.symm)
  rw [List.getLast?_concat, List.getLast?_concat] at hlast
  exact hne (Option.some.inj hlast)

/-- Files that lie apart are written in places of their own. -/
theorem Writes.places (h : Writes t log t')
    (happart : log.Pairwise fun a b => PlacedApart a.1 b.1) :
    log.Pairwise fun a b => t'.locate? a.1 ≠ t'.locate? b.1 :=
  happart.imp_of_mem fun {a b} ha _ hab heq => by
    obtain ⟨-, p, hp⟩ := h.located a ha
    exact hab t' p p hp (heq ▸ hp) rfl

/-- What stands where nothing is written stays. -/
theorem Writes.keeps (h : Writes t log t') (hp : ∀ e ∈ log, t'.locate? e.1 ≠ some p) :
    t'.file? p = t.file? p := by
  induction h with
  | done t => rfl
  | directories hmake _ ih => rw [ih hp, (makeDirectories_eq_ok hmake).2]
  | file hwrite hrest ih =>
    obtain ⟨q, hq, -, rfl⟩ := write_eq_ok hwrite
    obtain ⟨hhead, htail⟩ := List.forall_mem_cons.mp hp
    have hq' := hrest.grows.locate? ((grows_put _ q _).locate? hq)
    rw [ih htail, file?_put_of_ne]
    rintro rfl
    exact hhead hq'

/-- Of files that are written in places of their own, each reads as it was written. -/
theorem Writes.read (h : Writes t log t')
    (happart : log.Pairwise fun a b => t'.locate? a.1 ≠ t'.locate? b.1) :
    ∀ e ∈ log, t'.read e.1 = .ok e.2 := by
  induction h with
  | done t => simp
  | directories _ _ ih => exact ih happart
  | @file t _ t' path text log hwrite hrest ih =>
    obtain ⟨p, hp, hslash, rfl⟩ := write_eq_ok hwrite
    obtain ⟨hhead, htail⟩ := List.pairwise_cons.mp happart
    refine List.forall_mem_cons.mpr ⟨?_, ih htail⟩
    have hp' := hrest.grows.locate? ((grows_put t p text).locate? hp)
    have hfile : t'.file? p = some text := by
      rw [hrest.keeps fun e he heq => hhead e he (hp'.trans heq.symm), file?_put_self]
    simp [FileTree.read, hp', hfile, hslash]

end FileTree

end ViewModel
