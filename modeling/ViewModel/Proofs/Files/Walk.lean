import Mathlib.Data.List.Nodup
import ViewModel.Proofs.Files.Tree

/-!
Walks through a tree of files. A walk goes through the files below a place, and the texts of the
ways tell them apart, since a name has no slash in it.
-/

namespace ViewModel

/-- The parts of a list hold what the list holds, without what it is split at. -/
theorem of_mem_splitOn {α : Type} [BEq α] [LawfulBEq α] {a : α} {xs part : List α}
    (h : part ∈ xs.splitOn a) : a ∉ part ∧ part ⊆ xs := by
  induction xs generalizing part with
  | nil =>
    obtain rfl : part = [] := by simpa using h
    exact ⟨List.not_mem_nil, List.nil_subset _⟩
  | cons x xs ih =>
    rw [List.splitOn, List.splitOnP_cons_eq_if_modifyHead] at h
    split at h
    next =>
      rcases List.mem_cons.mp h with rfl | h
      · exact ⟨List.not_mem_nil, List.nil_subset _⟩
      · exact ⟨(ih h).1, List.subset_cons_of_subset _ (ih h).2⟩
    next hx =>
      rw [← List.splitOn] at h
      cases hparts : xs.splitOn a with
      | nil => simp [hparts] at h
      | cons first rest =>
        rw [hparts] at h
        rcases List.mem_cons.mp h with rfl | h
        · obtain ⟨hfirst, hsubset⟩ := ih (hparts ▸ List.mem_cons_self)
          refine ⟨fun hmem => ?_, List.cons_subset_cons _ hsubset⟩
          rcases List.mem_cons.mp hmem with rfl | hmem
          · exact hx BEq.rfl
          · exact hfirst hmem
        · obtain ⟨hpart, hsubset⟩ := ih (hparts ▸ List.mem_cons_of_mem _ h)
          exact ⟨hpart, List.subset_cons_of_subset _ hsubset⟩

/-- A name that something in a directory can have. -/
structure IsFileName (name : String) : Prop extends IsEntryName name where
  visible : '\x00' ∉ name.toList

theorem of_mem_pathNames {path name : String} (h : name ∈ pathNames path) :
    '/' ∉ name.toList ∧ name.toList ⊆ path.toList := by
  obtain ⟨part, hpart, rfl⟩ := List.mem_map.mp h
  rw [String.toList_ofList]
  exact of_mem_splitOn hpart

section Text

variable {p q : Place}

theorem pathNames_placeText (hflat : ∀ name ∈ p, '/' ∉ name.toList) (hp : p ≠ []) :
    pathNames (placeText p) = p := by
  have hparts : (placeText p).toList.splitOn '/' = p.map String.toList := by
    rw [placeText, String.toList_intercalate]
    refine List.splitOn_intercalate '/' (fun part hpart => ?_) (by simpa using hp)
    obtain ⟨name, hname, rfl⟩ := List.mem_map.mp hpart
    exact hflat name hname
  rw [pathNames, hparts, List.map_map]
  simp [Function.comp_def]

theorem placeText_inj (hp : ∀ name ∈ p, '/' ∉ name.toList) (hq : ∀ name ∈ q, '/' ∉ name.toList)
    (hpne : p ≠ []) (hqne : q ≠ []) (h : placeText p = placeText q) : p = q := by
  rw [← pathNames_placeText hp hpne, h, pathNames_placeText hq hqne]

/-- What the last name ends with, the way ends with. -/
theorem placeText_concat (folders : Place) (stem ending : String) :
    placeText (folders ++ [stem ++ ending]) = placeText (folders ++ [stem]) ++ ending := by
  induction folders with
  | nil => simp [placeText]
  | cons folder rest ih =>
    obtain ⟨first, more, hlong⟩ := List.exists_cons_of_ne_nil
      (List.append_ne_nil_of_right_ne_nil rest (List.cons_ne_nil (stem ++ ending) []))
    obtain ⟨first', more', hshort⟩ := List.exists_cons_of_ne_nil
      (List.append_ne_nil_of_right_ne_nil rest (List.cons_ne_nil stem []))
    rw [placeText, placeText, hlong, hshort] at ih
    rw [placeText, placeText, List.cons_append, List.cons_append, hlong, hshort,
      String.intercalate_cons_cons, String.intercalate_cons_cons, ih]
    simp only [String.append_assoc]

theorem placeText_ne_empty (hp : p ≠ []) (h : ∀ name ∈ p, IsEntryName name) :
    placeText p ≠ "" := by
  intro hempty
  have hnames := pathNames_placeText (fun name hname => (h name hname).flat) hp
  rw [hempty] at hnames
  have hmem : "" ∈ p := hnames ▸ by decide
  exact (h "" hmem).ne_empty rfl

theorem joinPath_ne_empty (directory : String) {path : String} (hpath : path ≠ "") :
    joinPath directory path ≠ "" := by
  rw [joinPath]
  split
  · exact hpath
  · split <;> simp [hpath]

theorem not_mem_placeText {c : Char} (hc : c ≠ '/') (h : ∀ name ∈ p, c ∉ name.toList) :
    c ∉ (placeText p).toList := by
  induction p with
  | nil => exact List.not_mem_nil
  | cons name rest ih =>
    obtain ⟨hname, hrest⟩ := List.forall_mem_cons.mp h
    cases rest with
    | nil => simpa [placeText] using hname
    | cons next more =>
      rw [placeText, String.intercalate_cons_cons, ← placeText]
      simp [hname, hc, ih hrest]

theorem not_mem_joinPath {c : Char} (hc : c ≠ '/') {directory path : String}
    (hdirectory : c ∉ directory.toList) (hpath : c ∉ path.toList) :
    c ∉ (joinPath directory path).toList := by
  rw [joinPath]
  split
  · exact hpath
  · split <;> simp [hdirectory, hpath, hc]

end Text

namespace FileTree

variable {t : FileTree} {p way : Place} {text path : String}

/-- A tree as directories hold it: files lie under names, each in a place of its own. -/
structure Proper (t : FileTree) : Prop where
  names : ∀ p ∈ t.files.map Prod.fst, ∀ name ∈ p, IsFileName name
  nodup : (t.files.map Prod.fst).Nodup
  home : ∀ name ∈ t.home, IsFileName name

theorem Proper.put (h : t.Proper) (hp : ∀ name ∈ p, IsFileName name) (text : String) :
    (t.put p text).Proper := by
  have hkeys := keys_putText t.files p text
  refine ⟨?_, ?_, h.home⟩
  · intro q hq
    rw [FileTree.put, hkeys] at hq
    split at hq
    · exact h.names q hq
    · rcases List.mem_append.mp hq with hq | hq
      · exact h.names q hq
      · exact List.mem_singleton.mp hq ▸ hp
  · rw [FileTree.put, hkeys]
    split
    · exact h.nodup
    next hnew => exact h.nodup.append (List.nodup_singleton p) (by simpa using hnew)

theorem follow_names {here : Place} {names : List String} (hhere : ∀ name ∈ here, IsFileName name)
    (hnames : ∀ name ∈ names, '/' ∉ name.toList ∧ '\x00' ∉ name.toList)
    (h : t.follow here names = some p) : ∀ name ∈ p, IsFileName name := by
  induction names generalizing here with
  | nil => exact Option.some.inj h ▸ hhere
  | cons first rest ih =>
    obtain ⟨⟨hflat, hvisible⟩, hrest⟩ := List.forall_mem_cons.mp hnames
    rw [follow] at h
    split at h
    next => exact ih hhere hrest h
    next hstay =>
      split at h
      next =>
        split at h
        · exact ih (fun name hname => hhere name (List.dropLast_subset _ hname)) hrest h
        · cases h
      next hup =>
        refine ih (fun name hname => ?_) hrest h
        rcases List.mem_append.mp hname with hname | hname
        · exact hhere name hname
        · obtain rfl := List.mem_singleton.mp hname
          simp only [Bool.or_eq_true, decide_eq_true_eq, not_or] at hstay
          exact ⟨⟨hflat, by simpa using hstay.1, hstay.2, hup⟩, hvisible⟩

/-- A path that leads somewhere has no null character. -/
theorem visible_of_locate? (h : t.locate? path = some p) : '\x00' ∉ path.toList := by
  rw [locate?] at h
  split at h
  · cases h
  next hpath =>
    rw [Bool.or_eq_true, not_or, List.contains_iff_mem] at hpath
    exact hpath.2

theorem Proper.locate?_names (ht : t.Proper) (h : t.locate? path = some p) :
    ∀ name ∈ p, IsFileName name := by
  have hstart : ∀ name ∈ t.start path, IsFileName name := by
    rw [start]
    split
    · simp
    · exact ht.home
  have hvisible := visible_of_locate? h
  rw [locate?] at h
  split at h
  · cases h
  · refine follow_names hstart (fun name hname => ?_) h
    obtain ⟨hflat, hsubset⟩ := of_mem_pathNames hname
    exact ⟨hflat, fun hmem => hvisible (hsubset hmem)⟩

theorem proper_ofFiles (files : List (String × String)) : (ofFiles files).Proper := by
  refine List.foldlRecOn files _ ⟨by simp, by simp, by simp⟩ fun t h f _ => ?_
  split
  next p hp => exact h.put (h.locate?_names hp) f.2
  next => exact h

/-- A walk goes through the files below a place. -/
theorem mem_walk : (way, text) ∈ t.walk p ↔ way ≠ [] ∧ (p ++ way, text) ∈ t.files := by
  simp only [walk, List.mem_mergeSort, List.mem_map, List.mem_filter, Bool.and_eq_true,
    decide_eq_true_eq, List.isPrefixOf_iff_prefix, Prod.mk.injEq]
  constructor
  · rintro ⟨⟨place, content⟩, ⟨hmem, ⟨rest, rfl⟩, hlength⟩, rfl, rfl⟩
    rw [List.drop_left]
    refine ⟨fun hnil => ?_, hmem⟩
    simp [hnil] at hlength
  · rintro ⟨hne, hmem⟩
    refine ⟨(p ++ way, text), ⟨hmem, List.prefix_append p way, ?_⟩, List.drop_left, rfl⟩
    simpa using List.length_pos_iff.mpr hne

end FileTree

end ViewModel
