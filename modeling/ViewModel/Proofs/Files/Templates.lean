import ViewModel.Files.Templates
import ViewModel.Proofs.Files.Walk
import ViewModel.Proofs.Registry

/-!
Registries from directories. Unless the suffix is empty, every file with it becomes a template under
the way to it without the suffix, no two under one name, and nothing else becomes one.
-/

namespace ViewModel

section Names

variable {suffix : String} {folders folders' : Place} {stem stem' : String}

theorem Registry.hasSuffix_iff {way : Place} :
    hasSuffix suffix way = true ↔ ∃ folders stem, way = folders ++ [stem ++ suffix] := by
  rw [hasSuffix, Option.any_eq_true]
  constructor
  · rintro ⟨name, hname, hends⟩
    obtain ⟨folders, rfl⟩ := List.getLast?_eq_some_iff.mp hname
    obtain ⟨stem, hstem⟩ := List.isSuffixOf_iff_suffix.mp hends
    refine ⟨folders, String.ofList stem, ?_⟩
    rw [← String.ofList_toList (s := suffix), ← String.ofList_append, hstem, String.ofList_toList]
  · rintro ⟨folders, stem, rfl⟩
    exact ⟨stem ++ suffix, by simp, by simp⟩

theorem Registry.templateName_concat (hsuffix : suffix ≠ "") (folders : Place) (stem : String) :
    templateName suffix (folders ++ [stem ++ suffix]) = placeText (folders ++ [stem]) := by
  rw [templateName, placeText_concat, String.toList_append, List.length_append,
    ← String.length_toList, Nat.add_sub_cancel, List.take_left, String.ofList_toList]
  simp [hsuffix]

/-- The names that are left without the suffix tell the ways apart. -/
theorem placeText_stem_inj
    (h : ∀ name ∈ folders ++ [stem ++ suffix], IsEntryName name)
    (h' : ∀ name ∈ folders' ++ [stem' ++ suffix], IsEntryName name)
    (heq : placeText (folders ++ [stem]) = placeText (folders' ++ [stem'])) :
    folders = folders' ∧ stem = stem' := by
  have hflat {folders : Place} {stem : String}
      (h : ∀ name ∈ folders ++ [stem ++ suffix], IsEntryName name) :
      ∀ name ∈ folders ++ [stem], '/' ∉ name.toList := by
    intro name hname
    rcases List.mem_append.mp hname with hname | hname
    · exact (h name (List.mem_append_left _ hname)).flat
    · obtain rfl := List.mem_singleton.mp hname
      have hfile := (h _ (List.mem_append_right _ List.mem_cons_self)).flat
      exact fun hslash => hfile (by simp [hslash])
  have hplace := placeText_inj (hflat h) (hflat h') (by simp) (by simp) heq
  simpa using hplace

end Names

/-- A file below a directory whose name ends with the suffix: the folders on the way to it, its name
without the suffix, and its text. -/
def FileTree.HasTemplate (t : FileTree) (directory suffix : String) (folders : Place)
    (stem text : String) : Prop :=
  ∃ p, t.locate? directory = some p ∧ (p ++ (folders ++ [stem ++ suffix]), text) ∈ t.files

namespace Registry

/-- The template of such a file; the path to it stands in messages. -/
def fileTemplate (directory suffix : String) (folders : Place) (stem text : String) :
    Except TemplateError Template :=
  Template.read text (some (joinPath directory (placeText (folders ++ [stem ++ suffix]))))

/-- Every file with the suffix has its template under the way to it without the suffix. There are no
other names, and no two files have the same. -/
structure Registers (r : Registry) (t : FileTree) (directory suffix : String) : Prop where
  registered : ∀ folders stem text, t.HasTemplate directory suffix folders stem text →
    ∃ template, fileTemplate directory suffix folders stem text = .ok template ∧
      r.get? (placeText (folders ++ [stem])) = some template ∧
      ∀ data, r.render? (placeText (folders ++ [stem])) data = some (template.render data)
  only : ∀ name ∈ r.names, ∃ folders stem text,
    t.HasTemplate directory suffix folders stem text ∧ name = placeText (folders ++ [stem])
  apart : ∀ folders stem text folders' stem' text',
    t.HasTemplate directory suffix folders stem text →
    t.HasTemplate directory suffix folders' stem' text' →
    placeText (folders ++ [stem]) = placeText (folders' ++ [stem']) →
    folders = folders' ∧ stem = stem' ∧ text = text'
  once : r.names.Nodup

/-- The addition that a file stands for. -/
def ofFile (directory suffix : String) (f : Place × String) : Addition :=
  ⟨templateName suffix f.1, f.2, some (joinPath directory (placeText f.1))⟩

/-- The additions of a directory, in the order of a walk. -/
def additions (t : FileTree) (directory suffix : String) : List Addition :=
  match t.locate? directory with
  | none => []
  | some p => ((t.walk p).filter fun f => hasSuffix suffix f.1).map (ofFile directory suffix)

variable {engine : Engine} {t : FileTree} {directory suffix stem text : String} {folders : Place}
  {a : Addition} {r : Registry}

theorem ofDirectory_eq_ok : ofDirectory t directory suffix engine = .ok r ↔
    (∀ a ∈ additions t directory suffix, a.outcome engine = .ok ()) ∧
      r = filled engine (additions t directory suffix) := by
  have hempty : filled engine [] = { engine } := by cases engine <;> rfl
  have hfold : ofDirectory t directory suffix engine = (additions t directory suffix).foldlM
      (fun r a => r.add a.name a.text a.source) (filled engine []) := by
    rw [ofDirectory, additions, hempty]
    cases t.locate? directory with
    | none => rfl
    | some p => rw [List.foldlM_map]; rfl
  rw [hfold, foldlM_add_eq_ok, List.nil_append]

theorem mem_additions : a ∈ additions t directory suffix ↔ ∃ folders stem text,
    t.HasTemplate directory suffix folders stem text ∧
      a = ofFile directory suffix (folders ++ [stem ++ suffix], text) := by
  rw [additions]
  cases hp : t.locate? directory with
  | none => simp [FileTree.HasTemplate, hp]
  | some p =>
    simp only [List.mem_map, List.mem_filter, FileTree.HasTemplate, hp, Option.some.injEq,
      exists_eq_left']
    constructor
    · rintro ⟨⟨way, text⟩, ⟨hwalk, hends⟩, rfl⟩
      obtain ⟨folders, stem, rfl⟩ := hasSuffix_iff.mp hends
      exact ⟨folders, stem, text, (FileTree.mem_walk.mp hwalk).2, rfl⟩
    · rintro ⟨folders, stem, text, hfile, rfl⟩
      exact ⟨_, ⟨FileTree.mem_walk.mpr ⟨by simp, hfile⟩, hasSuffix_iff.mpr ⟨folders, stem, rfl⟩⟩,
        rfl⟩

section Proper

variable (ht : t.Proper)

include ht

theorem fileNames_of_hasTemplate (h : t.HasTemplate directory suffix folders stem text) :
    ∀ name ∈ folders ++ [stem ++ suffix], IsFileName name := by
  obtain ⟨p, -, hfile⟩ := h
  intro name hname
  exact ht.names _ (List.mem_map_of_mem hfile) name (List.mem_append_right _ hname)

/-- The path to a file stands in messages. -/
theorem shown_ofFile (h : t.HasTemplate directory suffix folders stem text) :
    (ofFile directory suffix (folders ++ [stem ++ suffix], text)).shown =
      joinPath directory (placeText (folders ++ [stem ++ suffix])) := by
  have hsource := joinPath_ne_empty directory (placeText_ne_empty (by simp) fun name hname =>
    (fileNames_of_hasTemplate ht h name hname).toIsEntryName)
  rw [Addition.shown, ofFile, shownSource]
  exact hsource

theorem template_ofFile (h : t.HasTemplate directory suffix folders stem text) :
    (ofFile directory suffix (folders ++ [stem ++ suffix], text)).template =
      fileTemplate directory suffix folders stem text := by
  rw [Addition.template, shown_ofFile ht h]
  rfl

/-- Such a path has no null character, so that a file becomes a template if its text is read. -/
theorem outcome_ofFile (h : t.HasTemplate directory suffix folders stem text) :
    (ofFile directory suffix (folders ++ [stem ++ suffix], text)).outcome engine = .ok () ↔
      ∃ template, fileTemplate directory suffix folders stem text = .ok template := by
  have hvisible : '\x00' ∉ (joinPath directory
      (placeText (folders ++ [stem ++ suffix]))).toList := by
    obtain ⟨p, hp, -⟩ := id h
    refine not_mem_joinPath (by decide) (FileTree.visible_of_locate? hp) ?_
    exact not_mem_placeText (by decide) fun name hname =>
      (fileNames_of_hasTemplate ht h name hname).visible
  rw [Addition.outcome_eq_ok, template_ofFile ht h, shown_ofFile ht h]
  exact and_iff_left fun _ => hvisible

theorem hasTemplate_apart {stem' text' : String} {folders' : Place}
    (h : t.HasTemplate directory suffix folders stem text)
    (h' : t.HasTemplate directory suffix folders' stem' text')
    (heq : placeText (folders ++ [stem]) = placeText (folders' ++ [stem'])) :
    folders = folders' ∧ stem = stem' ∧ text = text' := by
  obtain ⟨rfl, rfl⟩ := placeText_stem_inj
    (fun name hname => (fileNames_of_hasTemplate ht h name hname).toIsEntryName)
    (fun name hname => (fileNames_of_hasTemplate ht h' name hname).toIsEntryName) heq
  obtain ⟨p, hp, hfile⟩ := h
  obtain ⟨p', hp', hfile'⟩ := h'
  obtain rfl : p = p' := Option.some.inj (hp.symm.trans hp')
  have hone := List.inj_on_of_nodup_map ht.nodup hfile hfile' rfl
  exact ⟨rfl, rfl, congrArg Prod.snd hone⟩

theorem exists_ofDirectory_iff : (∃ r, ofDirectory t directory suffix engine = .ok r) ↔
    ∀ folders stem text, t.HasTemplate directory suffix folders stem text →
      ∃ template, fileTemplate directory suffix folders stem text = .ok template := by
  constructor
  · rintro ⟨r, hr⟩ folders stem text h
    have hall := (ofDirectory_eq_ok.mp hr).1
    exact (outcome_ofFile ht h).mp (hall _ (mem_additions.mpr ⟨folders, stem, text, h, rfl⟩))
  · intro hparse
    refine ⟨_, ofDirectory_eq_ok.mpr ⟨fun a ha => ?_, rfl⟩⟩
    obtain ⟨folders, stem, text, h, rfl⟩ := mem_additions.mp ha
    exact (outcome_ofFile ht h).mpr (hparse folders stem text h)

variable (hnamed : ∀ folders stem text, t.HasTemplate directory suffix folders stem text →
  templateName suffix (folders ++ [stem ++ suffix]) = placeText (folders ++ [stem]))

include hnamed

/-- Where files are named by their ways, no later file replaces the template of another. -/
theorem latest_of_hasTemplate {template : Template}
    (h : t.HasTemplate directory suffix folders stem text)
    (htemplate : fileTemplate directory suffix folders stem text = .ok template) :
    latest Addition.template? (additions t directory suffix) (placeText (folders ++ [stem])) =
      some template := by
  let a := ofFile directory suffix (folders ++ [stem ++ suffix], text)
  have ha : a ∈ additions t directory suffix := mem_additions.mpr ⟨folders, stem, text, h, rfl⟩
  rw [← hnamed folders stem text h]
  have hread : a.template? = some template :=
    Success.toOption_eq_some.mpr ((template_ofFile ht h).trans htemplate)
  refine latest_of_only ha hread fun b hb hname => ?_
  obtain ⟨folders', stem', text', h', rfl⟩ := mem_additions.mp hb
  have heq := (hnamed _ _ _ h').symm.trans (hname.trans (hnamed _ _ _ h))
  obtain ⟨rfl, rfl, rfl⟩ := hasTemplate_apart ht h' h heq
  rfl

theorem registers_of_named (h : ofDirectory t directory suffix engine = .ok r) :
    r.Registers t directory suffix := by
  have hread := (exists_ofDirectory_iff ht).mp ⟨r, h⟩
  obtain ⟨hall, rfl⟩ := ofDirectory_eq_ok.mp h
  refine ⟨fun folders stem text h => ?_, fun name hname => ?_, ?_, nodup_names⟩
  · obtain ⟨template, htemplate⟩ := hread folders stem text h
    have hlatest := latest_of_hasTemplate ht hnamed h htemplate
    refine ⟨template, htemplate, get?_filled.trans hlatest, fun data => ?_⟩
    have hstep : (filled engine (additions t directory suffix)).InStep := inStep_filled fun hc a ha =>
      Addition.program?_eq ((Addition.outcome_eq_ok.mp (hall a ha)).2 hc)
    rw [hstep.render?_eq, get?_filled, hlatest]
    rfl
  · obtain ⟨a, ha, rfl⟩ := exists_of_mem_names hname
    obtain ⟨folders, stem, text, h, rfl⟩ := mem_additions.mp ha
    exact ⟨folders, stem, text, h, hnamed folders stem text h⟩
  · intro folders stem text folders' stem' text' h h'
    exact hasTemplate_apart ht h h'

end Proper

/-- With an empty suffix all files share the empty name. -/
theorem names_of_empty_suffix (h : ofDirectory t directory "" engine = .ok r) :
    ∀ name ∈ r.names, name = "" := by
  obtain ⟨-, rfl⟩ := ofDirectory_eq_ok.mp h
  intro name hname
  obtain ⟨a, ha, rfl⟩ := exists_of_mem_names hname
  obtain ⟨folders, stem, text, -, rfl⟩ := mem_additions.mp ha
  rfl

/-- So none of them is found under the way to it. -/
theorem get?_of_empty_suffix (ht : t.Proper) (h : ofDirectory t directory "" engine = .ok r)
    (hfile : t.HasTemplate directory "" folders stem text) :
    r.get? (placeText (folders ++ [stem])) = none := by
  have hnames : ∀ name ∈ folders ++ [stem], IsEntryName name := fun name hname =>
    (fileNames_of_hasTemplate ht hfile name (by simpa using hname)).toIsEntryName
  have hmem : placeText (folders ++ [stem]) ∉ r.names := fun hmem =>
    placeText_ne_empty (by simp) hnames (names_of_empty_suffix h _ hmem)
  obtain ⟨-, rfl⟩ := ofDirectory_eq_ok.mp h
  rw [mem_names] at hmem
  exact get?_filled.trans (Option.not_isSome_iff_eq_none.mp hmem)

/-- A directory is loaded if all its files with the suffix are read as templates. Then each of them
is registered under the way to it without the suffix, and apart from all others, unless the suffix
is empty: then all files share the empty name, and none is found under the way to it. -/
theorem ofDirectory_registers_iff (engine : Engine) (directory suffix : String) (ht : t.Proper) :
    ((∃ r, ofDirectory t directory suffix engine = .ok r) ↔
      ∀ folders stem text, t.HasTemplate directory suffix folders stem text →
        ∃ template, fileTemplate directory suffix folders stem text = .ok template) ∧
    ∀ r, ofDirectory t directory suffix engine = .ok r →
      (r.Registers t directory suffix ↔ (suffix = "" →
        ∀ folders stem text, ¬t.HasTemplate directory suffix folders stem text)) ∧
      (suffix = "" → (∀ name ∈ r.names, name = "") ∧
        ∀ folders stem text, t.HasTemplate directory suffix folders stem text →
          r.get? (placeText (folders ++ [stem])) = none) := by
  refine ⟨exists_ofDirectory_iff ht, fun r hr => ⟨⟨?_, fun hnone => ?_⟩, ?_⟩⟩
  · rintro hregisters rfl folders stem text h
    obtain ⟨template, -, hget, -⟩ := hregisters.registered folders stem text h
    rw [get?_of_empty_suffix ht hr h] at hget
    cases hget
  · refine registers_of_named ht (fun folders stem text h => ?_) hr
    exact templateName_concat (fun hempty => hnone hempty folders stem text h) folders stem
  · rintro rfl
    exact ⟨names_of_empty_suffix hr, fun _ _ _ => get?_of_empty_suffix ht hr⟩

end Registry

namespace Sample

/-- Two templates below a directory, and a file beside them. -/
def pageFiles : List (String × String) :=
  [("m/header.hbs", "<h1>{{title}}</h1>"), ("m/cards/tile.hbs", "<li>{{name}}</li>"),
    ("m/notes.txt", "to do")]

theorem pageFiles_read {directory suffix stem text : String} {folders : Place}
    (h : (FileTree.ofFiles pageFiles).HasTemplate directory suffix folders stem text) :
    ∃ template, Registry.fileTemplate directory suffix folders stem text = .ok template := by
  have hread : ∀ f ∈ (FileTree.ofFiles pageFiles).files,
      (Template.nodesOf f.2.toList).toOption.isSome = true := by decide +kernel
  obtain ⟨p, -, hfile⟩ := h
  obtain ⟨nodes, hnodes⟩ := Option.isSome_iff_exists.mp (hread _ hfile)
  rw [Registry.fileTemplate, Template.read, Success.toOption_eq_some.mp hnodes]
  exact ⟨_, rfl⟩

end Sample

open Sample

theorem Registry.ofDirectory_registers_pages : ∃ r,
    ofDirectory (.ofFiles pageFiles) "m" ".hbs" .compiled = .ok r ∧
      r.Registers (.ofFiles pageFiles) "m" ".hbs" := by
  obtain ⟨hloads, hall⟩ := ofDirectory_registers_iff (t := .ofFiles pageFiles) .compiled "m" ".hbs"
    (FileTree.proper_ofFiles pageFiles)
  obtain ⟨r, hr⟩ := hloads.mpr fun _ _ _ => pageFiles_read
  exact ⟨r, hr, (hall r hr).1.mpr (by simp)⟩

/-- With an empty suffix all three files are read, but the header is not registered. -/
theorem Registry.ofDirectory_loses_pages : ∃ r,
    ofDirectory (.ofFiles pageFiles) "m" "" .interpreted = .ok r ∧
      (FileTree.ofFiles pageFiles).HasTemplate "m" "" [] "header.hbs" "<h1>{{title}}</h1>" ∧
      (∀ name ∈ r.names, name = "") ∧ r.get? "header.hbs" = none ∧
      ¬r.Registers (.ofFiles pageFiles) "m" "" := by
  have ht := FileTree.proper_ofFiles pageFiles
  have hfile : (FileTree.ofFiles pageFiles).HasTemplate "m" "" [] "header.hbs"
      "<h1>{{title}}</h1>" := ⟨["m"], by decide +kernel, by decide +kernel⟩
  have hloads : ∃ r, ofDirectory (.ofFiles pageFiles) "m" "" .interpreted = .ok r :=
    (exists_ofDirectory_iff ht).mpr fun _ _ _ => pageFiles_read
  obtain ⟨r, hr⟩ := hloads
  have hlost : r.get? "header.hbs" = none := get?_of_empty_suffix ht hr hfile
  refine ⟨r, hr, hfile, names_of_empty_suffix hr, hlost, fun hregisters => ?_⟩
  obtain ⟨template, -, hget, -⟩ := hregisters.registered _ _ _ hfile
  cases hlost.symm.trans hget

end ViewModel
