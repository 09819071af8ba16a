import Mathlib.Data.List.Forall2
import ViewModel.CommandLine.Run
import ViewModel.Proofs.Success

/-!
Settings from a mapping. A mapping with a key that is no setting is refused, and what is read has
known targets. Users are told why a mapping is refused unless a key is no text, the targets are
nothing to go through, or the workers are no number.
-/

namespace ViewModel

open Yaml (Datum)

/-- Whether users are told of an error. -/
def ConfigError.IsReported (e : ConfigError) : Prop :=
  (CommandLine.Failure.config e).isReported = true

/-- Whether a datum shows the name of a target, in whatever case. -/
def Target.IsNamed (t : Target) (d : Datum) : Prop := d.shown.map Char.toLower = t.name

theorem Target.choose_eq_ok {d : Datum} {t : Target} : choose d.shown = .ok t ↔ t.IsNamed d := by
  rw [choose, IsNamed]
  constructor
  · intro h
    split at h
    next u hu =>
      obtain rfl := Except.ok.inj h
      exact (eq_of_beq (List.find?_some (p := fun t => Target.name t == _) hu)).symm
    next => cases h
  · intro h
    rw [h, ofName?_name]

theorem Target.choose_error {shown : String} {e : ConfigError} (h : choose shown = .error e) :
    e.IsReported := by
  rw [choose] at h
  split at h
  · cases h
  · exact Except.error.inj h ▸ rfl

namespace Config

variable {es : List (Datum × Datum)} {d : Datum} {ts : List Target} {e : ConfigError} {c : Config}

section Keys

def TextKeys (es : List (Datum × Datum)) : Prop := ∀ e ∈ es, ∃ s, e.1 = .text s

/-- Every key is that of a setting. -/
def KnownKeys (es : List (Datum × Datum)) : Prop := ∀ e ∈ es, ∃ key ∈ keys, e.1 = .text key

theorem KnownKeys.text (h : KnownKeys es) : TextKeys es := fun e he =>
  let ⟨key, _, hkey⟩ := h e he
  ⟨key, hkey⟩

theorem sameKey_text {key : Datum} {s : String} : key.sameKey (.text s) = true ↔ key = .text s := by
  cases key <;> simp [Datum.sameKey, Datum.position?]

theorem unknownKeys_eq_nil : unknownKeys es = [] ↔ KnownKeys es := by
  simp only [unknownKeys, KnownKeys, List.filter_eq_nil_iff, List.forall_mem_map, Bool.not_eq_true,
    Bool.not_eq_false', List.any_eq_true, sameKey_text]

/-- A key that is no text is unknown. -/
theorem textKeys_iff : TextKeys es ↔ ((unknownKeys es).mapM textKey?).isSome = true := by
  have htext (k : Datum) : (textKey? k).isSome = true ↔ ∃ s, k = .text s := by
    cases k <;> simp [textKey?]
  simp only [Success.mapM_isSome, htext, unknownKeys, List.mem_filter, Bool.not_eq_true',
    List.any_eq_false, sameKey_text]
  constructor
  · rintro h k ⟨hk, -⟩
    obtain ⟨e, he, rfl⟩ := List.mem_map.mp hk
    exact h e he
  · intro h e he
    by_cases hknown : ∃ key ∈ keys, e.1 = .text key
    · exact hknown.imp fun key => And.right
    · exact h e.1 ⟨List.mem_map_of_mem he, fun key hkey heq => hknown ⟨key, hkey, heq⟩⟩

theorem checkKeys_eq_ok : checkKeys es = .ok () ↔ KnownKeys es := by
  rw [← unknownKeys_eq_nil, checkKeys]
  split
  next h => simp [h]
  next h => split <;> simpa using h

theorem checkKeys_error (h : checkKeys es = .error e) : e.IsReported ↔ TextKeys es := by
  rw [textKeys_iff]
  rw [checkKeys] at h
  split at h
  next => cases h
  next =>
    split at h
    next names hnames =>
      obtain rfl := Except.error.inj h
      exact iff_of_true rfl (Option.isSome_of_eq_some hnames)
    next hnames =>
      obtain rfl := Except.error.inj h
      rw [hnames]
      exact iff_of_false Bool.false_ne_true Bool.false_ne_true

end Keys

section Targets

/-- The targets are those that are named, and the usual ones where none are. -/
def NamedTargets (es : List (Datum × Datum)) (ts : List Target) : Prop :=
  match find? es "targets" with
  | none => ts = ({} : Config).targets
  | some d => ∃ ds, parts? d = some ds ∧ List.Forall₂ (fun d t => t.IsNamed d) ds ts

/-- The targets, or what is wrong with them. -/
def targets? (es : List (Datum × Datum)) : Except ConfigError (List Target) :=
  match find? es "targets" with
  | none => .ok ({} : Config).targets
  | some d => targetsOf d

theorem targets?_eq_ok : targets? es = .ok ts ↔ NamedTargets es ts := by
  rw [targets?, NamedTargets]
  cases find? es "targets" with
  | none => simp [eq_comm]
  | some d =>
    simp only [targetsOf]
    cases parts? d with
    | none => simp
    | some ds => simp [Success.mapM_eq_ok, Target.choose_eq_ok]

theorem targets?_error (h : targets? es = .error e) :
    e.IsReported ↔ ∀ d, find? es "targets" = some d → (parts? d).isSome = true := by
  rw [targets?] at h
  cases hd : find? es "targets" with
  | none => simp [hd] at h
  | some d =>
    simp only [hd, targetsOf] at h
    cases hparts : parts? d with
    | none =>
      rw [hparts] at h
      obtain rfl := Except.error.inj h
      simp [hparts, ConfigError.IsReported, CommandLine.Failure.isReported]
    | some ds =>
      rw [hparts] at h
      simp [hparts, Success.mapM_error (fun d _ e => Target.choose_error) h]

end Targets

section Workers

/-- No number of workers is given, or one that is not below one. -/
def EnoughWorkers (d : Datum) : Prop :=
  d = .null ∨ ∃ p, d.position? = some p ∧ p.lt (.ofInt 1) = false

theorem checkWorkers_of_position {p : Position} (h : d.position? = some p) :
    checkWorkers d = if p.lt (.ofInt 1) then .error (.tooFewWorkers d.shown) else .ok () := by
  cases d with
  | bool b => simp [checkWorkers, h]
  | int n => simp [checkWorkers, h]
  | float x => simp [checkWorkers, h]
  | _ => cases h

/-- A float that is no number is not below one. -/
theorem checkWorkers_of_none (h : d.position? = none) :
    (checkWorkers d = .ok () ∧ (d = .null ∨ d = .float .nan)) ∨
      (checkWorkers d = .error .workersNotNumber ∧ d ≠ .null ∧ d ≠ .float .nan) := by
  cases d with
  | null => exact .inl ⟨rfl, .inl rfl⟩
  | bool b => cases h
  | int n => cases h
  | float x =>
    obtain rfl := (Double.position?_eq_none_iff x).mp h
    exact .inl ⟨rfl, .inr rfl⟩
  | _ => exact .inr ⟨rfl, by simp, by simp⟩

theorem checkWorkers_eq_ok : checkWorkers d = .ok () ↔ EnoughWorkers d ∨ d = .float .nan := by
  rw [EnoughWorkers]
  cases h : d.position? with
  | some p =>
    have hnull : d ≠ .null := by rintro rfl; cases h
    have hnan : d ≠ .float .nan := by rintro rfl; cases h
    simp [checkWorkers_of_position h, hnull, hnan]
  | none =>
    rcases checkWorkers_of_none h with ⟨hok, hd⟩ | ⟨herror, hnull, hnan⟩
    · simpa [hok] using hd
    · simp [herror, hnull, hnan]

theorem checkWorkers_error (h : checkWorkers d = .error e) :
    d ≠ .null ∧ (e.IsReported ↔ d.position?.isSome = true) := by
  cases hp : d.position? with
  | some p =>
    rw [checkWorkers_of_position hp] at h
    split at h
    · obtain rfl := Except.error.inj h
      have hnull : d ≠ .null := by rintro rfl; cases hp
      exact ⟨hnull, iff_of_true rfl rfl⟩
    · cases h
  | none =>
    rcases checkWorkers_of_none hp with ⟨hok, -⟩ | ⟨herror, hnull, -⟩
    · cases hok.symm.trans h
    · obtain rfl := Except.error.inj (herror.symm.trans h)
      exact ⟨hnull, iff_of_false Bool.false_ne_true Bool.false_ne_true⟩

end Workers

/-- The settings of a mapping, with the usual ones where it has none. -/
def settings (es : List (Datum × Datum)) (ts : List Target) : Config :=
  let usual : Config := {}
  { inputDir := (find? es "input_dir").getD usual.inputDir
    outputDir := (find? es "output_dir").getD usual.outputDir
    targets := ts
    space := (find? es "namespace").getD usual.space
    manifestFile := (find? es "manifest_file").getD usual.manifestFile
    pattern := (find? es "pattern").getD usual.pattern
    workers := (find? es "workers").getD usual.workers }

theorem ofEntries_eq (es : List (Datum × Datum)) : ofEntries es = (do
    checkKeys es
    let ts ← targets? es
    checkWorkers (settings es ts).workers
    return settings es ts) := by
  rw [ofEntries, targets?]
  cases find? es "targets" <;> rfl

theorem ofEntries_eq_ok : ofEntries es = .ok c ↔ KnownKeys es ∧ NamedTargets es c.targets ∧
    (EnoughWorkers c.workers ∨ c.workers = .float .nan) ∧ c = settings es c.targets := by
  simp only [ofEntries_eq, Success.bind_eq_ok, Success.pure_eq_ok, targets?_eq_ok]
  constructor
  · rintro ⟨_, hkeys, ts, hts, _, hworkers, rfl⟩
    exact ⟨checkKeys_eq_ok.mp hkeys, hts, checkWorkers_eq_ok.mp hworkers, rfl⟩
  · rintro ⟨hkeys, hts, hworkers, hc⟩
    rw [hc] at hworkers
    exact ⟨(), checkKeys_eq_ok.mpr hkeys, c.targets, hts, (), checkWorkers_eq_ok.mpr hworkers,
      hc.symm⟩

/-- What a mapping must hold for its reading to end as it should: texts as keys, targets that can be
gone through, and workers that are left open or a number. Each counts where it is looked at. -/
structure Readable (es : List (Datum × Datum)) : Prop where
  keys : TextKeys es
  targets : KnownKeys es → ∀ d, find? es "targets" = some d → (parts? d).isSome = true
  workers : KnownKeys es → (∃ ts, NamedTargets es ts) → ∀ d, find? es "workers" = some d →
    d = .null ∨ d.position?.isSome = true

/-- Reading ends with known targets and no workers or enough of them, or with an error of which users
are told. -/
def Orderly (es : List (Datum × Datum)) : Prop :=
  (∃ c, ofEntries es = .ok c ∧ NamedTargets es c.targets ∧ EnoughWorkers c.workers) ∨
    ∃ e, ofEntries es = .error e ∧ e.IsReported

theorem NamedTargets.listed (h : NamedTargets es ts) (d : Datum) (hd : find? es "targets" = some d) :
    (parts? d).isSome = true := by
  rw [NamedTargets, hd] at h
  obtain ⟨ds, hds, -⟩ := h
  exact Option.isSome_of_eq_some hds

/-- Of a mapping that is read, workers that are no number are the one thing left to be wrong. -/
theorem enoughWorkers_iff (h : ofEntries es = .ok c) : EnoughWorkers c.workers ↔ Readable es := by
  obtain ⟨hkeys, hts, hworkers, hc⟩ := ofEntries_eq_ok.mp h
  have hgiven : c.workers = (find? es "workers").getD .null := by rw [hc]; rfl
  constructor
  · intro henough
    refine ⟨hkeys.text, fun _ => hts.listed, fun _ _ d hd => ?_⟩
    rw [hgiven, hd, Option.getD_some] at henough
    exact henough.imp_right fun ⟨p, hp, _⟩ => Option.isSome_of_eq_some hp
  · intro hreadable
    refine hworkers.resolve_right fun hnan => ?_
    rw [hgiven] at hnan
    cases hd : find? es "workers" with
    | none => simp [hd] at hnan
    | some d =>
      rw [hd, Option.getD_some] at hnan
      rcases hreadable.workers hkeys ⟨_, hts⟩ d hd with rfl | hnumber
      · cases hnan
      · rw [hnan] at hnumber
        cases hnumber

theorem ofEntries_eq_error (h : ofEntries es = .error e) :
    checkKeys es = .error e ∨ KnownKeys es ∧ (targets? es = .error e ∨
      ∃ ts, NamedTargets es ts ∧ checkWorkers (settings es ts).workers = .error e) := by
  rw [ofEntries_eq, Success.bind_eq_error] at h
  refine h.imp_right fun ⟨_, hkeys, h⟩ => ⟨checkKeys_eq_ok.mp hkeys, ?_⟩
  rw [Success.bind_eq_error] at h
  refine h.imp_right fun ⟨ts, hts, h⟩ => ⟨ts, targets?_eq_ok.mp hts, ?_⟩
  rcases Success.bind_eq_error.mp h with hworkers | ⟨_, -, h⟩
  · exact hworkers
  · cases h

/-- Users are told of an error exactly if the mapping is readable. -/
theorem isReported_iff (h : ofEntries es = .error e) : e.IsReported ↔ Readable es := by
  -- Behind the check that fails nothing is looked at, so nothing counts there.
  rcases ofEntries_eq_error h with hkeys | ⟨hknown, hts | ⟨ts, hnamed, hworkers⟩⟩
  · have hunknown : ¬KnownKeys es := fun hknown => by
      cases hkeys.symm.trans (checkKeys_eq_ok.mpr hknown)
    rw [checkKeys_error hkeys]
    exact ⟨fun htext => ⟨htext, fun hknown => absurd hknown hunknown,
      fun hknown => absurd hknown hunknown⟩, Readable.keys⟩
  · have hunnamed : ¬∃ ts, NamedTargets es ts := fun ⟨ts, hnamed⟩ => by
      cases hts.symm.trans (targets?_eq_ok.mpr hnamed)
    rw [targets?_error hts]
    exact ⟨fun hlisted => ⟨hknown.text, fun _ => hlisted, fun _ hnamed => absurd hnamed hunnamed⟩,
      fun hreadable => hreadable.targets hknown⟩
  · obtain ⟨hnull, hnumber⟩ := checkWorkers_error hworkers
    have hgiven : find? es "workers" = some (settings es ts).workers := by
      cases hd : find? es "workers" with
      | none => exact absurd (by simp [settings, hd]) hnull
      | some d => simp [settings, hd]
    rw [hnumber]
    constructor
    · intro hposition
      refine ⟨hknown.text, fun _ => hnamed.listed, fun _ _ d hd => .inr ?_⟩
      rwa [← Option.some.inj (hgiven.symm.trans hd)]
    · intro hreadable
      exact (hreadable.workers hknown ⟨ts, hnamed⟩ _ hgiven).resolve_left hnull

/-- A mapping with a key that is no setting is refused, and users are told so if all keys are texts.
Reading ends as it should exactly for the mappings that are readable. -/
theorem ofEntries_orderly_iff (es : List (Datum × Datum)) :
    (Orderly es ↔ Readable es) ∧
      (KnownKeys es ∨ ∃ e, ofEntries es = .error e ∧ (e.IsReported ↔ TextKeys es)) := by
  constructor
  · cases h : ofEntries es with
    | ok c =>
      rw [← enoughWorkers_iff h, Orderly, h]
      simp [(ofEntries_eq_ok.mp h).2.1]
    | error e =>
      rw [← isReported_iff h, Orderly, h]
      simp
  · cases h : checkKeys es with
    | ok u => exact .inl (checkKeys_eq_ok.mp h)
    | error e =>
      refine .inr ⟨e, ?_, checkKeys_error h⟩
      rw [ofEntries_eq, h]
      rfl

end Config

/-- What is read otherwise than it should: a key that is a number, targets that are null, workers that
are a text, and workers that are a float but no number. -/
theorem Config.ofEntries_disorderly :
    ofEntries [(.int 1, .int 2)] = .error .keysNotText ∧ ¬Orderly [(.int 1, .int 2)] ∧
    ofEntries [(.text "targets", .null)] = .error .targetsNotListed ∧
      ¬Orderly [(.text "targets", .null)] ∧
    ofEntries [(.text "workers", .text "2")] = .error .workersNotNumber ∧
      ¬Orderly [(.text "workers", .text "2")] ∧
    (∃ c, ofEntries [(.text "workers", .float .nan)] = .ok c ∧ c.workers = .float .nan) ∧
      ¬Orderly [(.text "workers", .float .nan)] := by
  have hrefused {es : List (Datum × Datum)} {e : ConfigError} (h : ofEntries es = .error e)
      (he : (CommandLine.Failure.config e).isReported = false) : ¬Orderly es := by
    rintro (⟨c, hc, -⟩ | ⟨e', he', hreported⟩)
    · cases h.symm.trans hc
    · obtain rfl := Except.error.inj (h.symm.trans he')
      cases he.symm.trans hreported
  have hkey : ofEntries [(.int 1, .int 2)] = .error .keysNotText := rfl
  have htargets : ofEntries [(.text "targets", .null)] = .error .targetsNotListed := rfl
  have hworkers : ofEntries [(.text "workers", .text "2")] = .error .workersNotNumber := rfl
  have hnan : ofEntries [(.text "workers", .float .nan)] =
      .ok (settings [(.text "workers", .float .nan)] ({} : Config).targets) := rfl
  refine ⟨hkey, hrefused hkey rfl, htargets, hrefused htargets rfl, hworkers, hrefused hworkers rfl,
    ⟨_, hnan, rfl⟩, ?_⟩
  rintro (⟨c, hc, -, henough⟩ | ⟨e, he, -⟩)
  · obtain rfl := Except.ok.inj (hnan.symm.trans hc)
    rcases henough with hnull | ⟨p, hp, -⟩
    · cases hnull
    · cases hp
  · cases hnan.symm.trans he

end ViewModel
