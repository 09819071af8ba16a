import ViewModel.Proofs.Page
import ViewModel.Proofs.Value.Entries

/-!
Registries over a history of additions, of which some fail. A text that is refused changes nothing.
A program that is refused for its name leaves the template it belongs to, so after such an addition
the registries of the two engines part; without one they stay coherent.
-/

namespace ViewModel

namespace Registry

/-- What is given to be added: the text of a template, its name, and what names it in messages. -/
structure Addition where
  name : String
  text : String
  source : Option String := none

namespace Addition

/-- What names the template in messages, and its program. -/
def shown (a : Addition) : String := shownSource a.name a.source

/-- The template of the text, or what is wrong with it. -/
def template (a : Addition) : Except TemplateError Template := Template.read a.text (some a.shown)

def template? (a : Addition) : Option Template := a.template.toOption

/-- The program, if the text is read and the name is accepted. -/
def program? (a : Addition) : Option Program := a.template?.bind Program.compile?

/-- How the addition ends on any registry of an engine. -/
def outcome (engine : Engine) (a : Addition) : Except RegistryError Unit :=
  match a.template with
  | .error e => .error (.template e)
  | .ok t =>
      if engine = .compiled ∧ Program.compile? t = none then .error .nullCharacter else .ok ()

/-- How the addition ends on a registry, and what it leaves. -/
def perform (a : Addition) (r : Registry) : Except RegistryError Unit × Registry :=
  (adding a.name a.text a.source).outcome r

variable {a : Addition} {t : Template}

theorem mem_fileName (h : a.template = .ok t) :
    '\x00' ∈ (Program.fileName t).toList ↔ '\x00' ∈ a.shown.toList := by
  obtain ⟨nodes, rfl⟩ : ∃ nodes, t = ⟨nodes, some a.shown⟩ := by
    rw [template, Template.read] at h
    split at h
    · exact ⟨_, (Except.ok.inj h).symm⟩
    · cases h
  rw [Program.fileName]
  split
  next hnone => cases hnone
  next hempty => simp [Option.some.inj hempty]
  next hsome =>
    rw [← Option.some.inj hsome]
    simp

/-- The program of a template that is read is refused for a null character, and for nothing else. -/
theorem compile?_eq_none (h : a.template = .ok t) :
    Program.compile? t = none ↔ '\x00' ∈ a.shown.toList := by
  rw [← mem_fileName h, Program.compile?]
  simp

theorem program?_eq (h : '\x00' ∉ a.shown.toList) :
    a.program? = a.template?.map Program.ofTemplate := by
  rw [program?, template?]
  cases ht : a.template with
  | error e => rfl
  | ok t =>
    exact Program.compile?_eq_some.mpr ⟨fun hmem => h ((mem_fileName ht).mp hmem), rfl⟩

theorem outcome_eq_ok {engine : Engine} : a.outcome engine = .ok () ↔
    (∃ t, a.template = .ok t) ∧ (engine = .compiled → '\x00' ∉ a.shown.toList) := by
  rw [outcome]
  cases ht : a.template with
  | error e => simp
  | ok t => simp [compile?_eq_none ht]

end Addition

/-- Additions one after another on an empty registry: how each of them ends, and the registry that
they leave. One that fails does not stop the others. -/
def after (engine : Engine) (calls : List Addition) :
    List (Except RegistryError Unit) × Registry :=
  Id.run ((calls.mapM fun a => (adding a.name a.text a.source).run : StateM Registry _).run
    { engine })

/-- What some additions bring, each under its name. -/
def brought {α : Type} (value? : Addition → Option α) (calls : List Addition) : List (String × α) :=
  calls.filterMap fun a => (value? a).map fun v => (a.name, v)

/-- The registry of all that some additions bring, of which the last one of each name counts. -/
def filled (engine : Engine) (calls : List Addition) : Registry where
  engine := engine
  templates := Entries.ofList (brought Addition.template? calls)
  programs :=
    match engine with
    | .interpreted => []
    | .compiled => Entries.ofList (brought Addition.program? calls)

section Brought

variable {α β : Type} {value? : Addition → Option α} {calls : List Addition} {a : Addition}

theorem brought_concat_of_none (h : value? a = none) :
    brought value? (calls ++ [a]) = brought value? calls := by
  simp [brought, h]

theorem brought_concat_of_some {v : α} (h : value? a = some v) :
    brought value? (calls ++ [a]) = brought value? calls ++ [(a.name, v)] := by
  simp [brought, h]

theorem brought_map {other? : Addition → Option β} {f : α → β}
    (h : ∀ a ∈ calls, other? a = (value? a).map f) :
    brought other? calls = (brought value? calls).map fun e => (e.1, f e.2) := by
  rw [brought, brought, List.map_filterMap]
  refine List.filterMap_congr fun a ha => ?_
  rw [h a ha]
  cases value? a <;> rfl

/-- What was brought last under a name. -/
def latest (value? : Addition → Option α) (calls : List Addition) (name : String) : Option α :=
  ((calls.filter fun a => a.name = name).filterMap value?).getLast?

theorem find?_brought (value? : Addition → Option α) (calls : List Addition) (name : String) :
    Entries.find? (Entries.ofList (brought value? calls)) name = latest value? calls name := by
  have hpicked : ((brought value? calls).filter fun e => e.1 = name).map Prod.snd =
      (calls.filter fun a => a.name = name).filterMap value? := by
    induction calls with
    | nil => rfl
    | cons a calls ih =>
      rw [brought, List.filterMap_cons, ← brought, List.filter_cons]
      cases hvalue : value? a with
      | none => by_cases hname : a.name = name <;> simp [hname, hvalue, ih]
      | some v => by_cases hname : a.name = name <;> simp [hname, hvalue, ih]
  rw [Entries.find?_ofList, hpicked, latest]

/-- A name that one addition has alone keeps what this addition brings. -/
theorem latest_of_only {v : α} (ha : a ∈ calls) (hv : value? a = some v)
    (honly : ∀ b ∈ calls, b.name = a.name → b = a) : latest value? calls a.name = some v := by
  let found := (calls.filter fun b => b.name = a.name).filterMap value?
  have hfound : ∀ v' ∈ found, v' = v := by
    intro v' hv'
    obtain ⟨b, hb, hbv⟩ := List.mem_filterMap.mp hv'
    obtain ⟨hb, hname⟩ := List.mem_filter.mp hb
    obtain rfl := honly b hb (by simpa using hname)
    exact Option.some.inj (hbv.symm.trans hv)
  have hmem : v ∈ found :=
    List.mem_filterMap.mpr ⟨a, List.mem_filter.mpr ⟨ha, by simp⟩, hv⟩
  obtain ⟨v', hv'⟩ := Option.isSome_iff_exists.mp
    (List.getLast?_isSome.mpr (List.ne_nil_of_mem hmem))
  rw [latest, hv', hfound v' (List.mem_of_getLast? hv')]

theorem exists_of_latest {name : String} (h : (latest value? calls name).isSome = true) :
    ∃ a ∈ calls, a.name = name := by
  obtain ⟨v, hv⟩ := List.exists_mem_of_ne_nil _ (List.getLast?_isSome.mp h)
  obtain ⟨a, ha, -⟩ := List.mem_filterMap.mp hv
  obtain ⟨ha, hname⟩ := List.mem_filter.mp ha
  exact ⟨a, ha, by simpa using hname⟩

end Brought

/-- One more addition: it ends as its text and its name tell, and brings what it can. -/
theorem perform_filled (engine : Engine) (calls : List Addition) (a : Addition) :
    a.perform (filled engine calls) = (a.outcome engine, filled engine (calls ++ [a])) := by
  rw [Addition.perform, adding_outcome, ← Addition.shown, ← Addition.template, Addition.outcome]
  cases ht : a.template with
  | error e =>
    have hnone : a.template? = none := by rw [Addition.template?, ht]; rfl
    have hnone' : a.program? = none := by rw [Addition.program?, hnone]; rfl
    simp only [filled, brought_concat_of_none hnone, brought_concat_of_none hnone']
  | ok t =>
    have hsome : a.template? = some t := by rw [Addition.template?, ht]; rfl
    have hprogram : a.program? = Program.compile? t := by rw [Addition.program?, hsome]; rfl
    have hset : (filled engine calls).setTemplate a.name t =
        { filled engine calls with
          templates := Entries.ofList (brought Addition.template? (calls ++ [a])) } := by
      rw [brought_concat_of_some hsome, Entries.ofList_concat]
      rfl
    dsimp only
    cases engine with
    | interpreted =>
      rw [set_interpreted rfl, hset]
      rfl
    | compiled =>
      rw [set_compiled rfl, hset]
      cases hp : Program.compile? t with
      | none =>
        have hkept : brought Addition.program? (calls ++ [a]) = brought Addition.program? calls :=
          brought_concat_of_none (hprogram.trans hp)
        simp [filled, hkept]
      | some p =>
        have hnew : brought Addition.program? (calls ++ [a]) =
            brought Addition.program? calls ++ [(a.name, p)] :=
          brought_concat_of_some (hprogram.trans hp)
        simp [filled, hnew, setProgram, Entries.ofList_concat]

/-- One more addition goes on from the registry that those before it have left. -/
theorem after_concat (engine : Engine) (calls : List Addition) (a : Addition) :
    after engine (calls ++ [a]) =
      ((after engine calls).1 ++ [(a.perform (after engine calls).2).1],
        (a.perform (after engine calls).2).2) := by
  simp only [after, List.mapM_append, List.mapM_cons, List.mapM_nil, StateT.run_bind,
    StateT.run_pure, Id.run_bind, Id.run_pure, pure_bind]
  rfl

/-- A history ends as its texts and names tell, and leaves what it has brought. -/
theorem after_eq (engine : Engine) (calls : List Addition) :
    after engine calls = (calls.map (Addition.outcome engine), filled engine calls) := by
  -- From the end, since an addition meets what those before it have left.
  induction calls using List.reverseRec with
  | nil => cases engine <;> rfl
  | append_singleton calls a ih =>
    rw [after_concat, ih, perform_filled, List.map_append]
    rfl

/-- Additions in a row, none of which fails. -/
theorem foldlM_add_eq_ok {engine : Engine} {before calls : List Addition} {r : Registry} :
    calls.foldlM (fun r a => r.add a.name a.text a.source) (filled engine before) = .ok r ↔
      (∀ a ∈ calls, a.outcome engine = .ok ()) ∧ r = filled engine (before ++ calls) := by
  induction calls generalizing before with
  | nil => simp [pure, Except.pure, eq_comm]
  | cons a calls ih =>
    have hadd : ∀ r', (filled engine before).add a.name a.text a.source = .ok r' ↔
        a.outcome engine = .ok () ∧ filled engine (before ++ [a]) = r' := fun r' => by
      rw [add_eq_ok, ← Addition.perform, perform_filled, Prod.mk.injEq]
    rw [List.foldlM_cons, Success.bind_eq_ok, List.forall_mem_cons]
    constructor
    · rintro ⟨r', hr', hrest⟩
      obtain ⟨houtcome, rfl⟩ := (hadd r').mp hr'
      obtain ⟨hcalls, rfl⟩ := ih.mp hrest
      exact ⟨⟨houtcome, hcalls⟩, by rw [List.append_assoc, List.singleton_append]⟩
    · rintro ⟨⟨houtcome, hcalls⟩, rfl⟩
      refine ⟨_, (hadd _).mpr ⟨houtcome, rfl⟩, ih.mpr ⟨hcalls, ?_⟩⟩
      rw [List.append_assoc, List.singleton_append]

section Filled

variable {engine : Engine} {calls : List Addition} {name : String}

/-- Where no name is refused, the programs are those of the templates. -/
theorem programs_filled (h : ∀ a ∈ calls, a.program? = a.template?.map Program.ofTemplate) :
    (filled .compiled calls).programs =
      (filled .compiled calls).templates.map fun e => (e.1, Program.ofTemplate e.2) := by
  rw [filled, Entries.map_ofList, ← brought_map h]

theorem inStep_filled (h : engine = .compiled →
    ∀ a ∈ calls, a.program? = a.template?.map Program.ofTemplate) :
    (filled engine calls).InStep := by
  rintro (rfl : engine = .compiled) name
  rw [programs_filled (h rfl)]
  exact @Entries.find?_map _ _ _ name id Program.ofTemplate fun _ _ h => h

theorem get?_filled : (filled engine calls).get? name = latest Addition.template? calls name :=
  find?_brought _ _ _

theorem nodup_names : (filled engine calls).names.Nodup :=
  (List.mergeSort_perm _ _).nodup_iff.mpr (Entries.nodup_ofList _)

theorem mem_names : name ∈ (filled engine calls).names ↔
    (latest Addition.template? calls name).isSome = true := by
  rw [names, List.mem_mergeSort, ← Entries.isSome_find?, ← find?_brought]
  rfl

theorem exists_of_mem_names (h : name ∈ (filled engine calls).names) :
    ∃ a ∈ calls, a.name = name :=
  exists_of_latest (mem_names.mp h)

end Filled

/-- The registries of both engines are coherent after some additions. Each addition has ended alike
for both, and has changed nothing if it has failed. Both registries have the same names; the
programs are kept under the names of the templates, and each is that of the template that was added
last under its name; so each name renders to the same text on the same data. -/
structure Coherent (calls : List Addition) : Prop where
  alike : (after .interpreted calls).1 = (after .compiled calls).1
  unchanged : ∀ before a rest, calls = before ++ a :: rest → ∀ engine e,
    (a.perform (after engine before).2).1 = .error e →
      (a.perform (after engine before).2).2 = (after engine before).2
  names : (after .interpreted calls).2.names = (after .compiled calls).2.names
  keys : (after .compiled calls).2.programs.map Prod.fst =
    (after .compiled calls).2.templates.map Prod.fst
  templates : ∀ engine name, (after engine calls).2.get? name =
    latest Addition.template? calls name
  programs : ∀ name, Entries.find? (after .compiled calls).2.programs name =
    (latest Addition.template? calls name).map Program.ofTemplate
  texts : ∀ engine name data, (after engine calls).2.render? name data =
    (latest Addition.template? calls name).map (·.render data)

/-- A text that is refused leaves the registry as it was. -/
theorem perform_unchanged {engine : Engine} {before : List Addition} {a : Addition}
    (h : a.template? = none) : (a.perform (after engine before).2).2 = (after engine before).2 := by
  have hprogram : a.program? = none := by rw [Addition.program?, h]; rfl
  rw [after_eq, perform_filled]
  simp only [filled, brought_concat_of_none h, brought_concat_of_none hprogram]

theorem coherent_of_plain {calls : List Addition}
    (h : ∀ a ∈ calls, (∃ t, a.template = .ok t) → '\x00' ∉ a.shown.toList) : Coherent calls := by
  have houtcome : ∀ a ∈ calls, a.outcome .interpreted = a.outcome .compiled := by
    intro a ha
    rw [Addition.outcome, Addition.outcome]
    cases ht : a.template with
    | error e => rfl
    | ok t => simp [Addition.compile?_eq_none ht, h a ha ⟨t, ht⟩]
  have hprogram : ∀ a ∈ calls, a.program? = a.template?.map Program.ofTemplate := by
    intro a ha
    cases ht : a.template with
    | error e => simp [Addition.program?, Addition.template?, ht, Except.toOption]
    | ok t => exact Addition.program?_eq (h a ha ⟨t, ht⟩)
  have hstep : ∀ engine, (filled engine calls).InStep := fun _ => inStep_filled fun _ => hprogram
  constructor
  case alike => simpa [after_eq] using houtcome
  case unchanged =>
    rintro before a rest rfl engine e he
    refine perform_unchanged (Option.eq_none_iff_forall_ne_some.mpr fun t ht => ?_)
    have ht : a.template = .ok t := Success.toOption_eq_some.mp ht
    have hok : a.outcome engine = .ok () :=
      Addition.outcome_eq_ok.mpr ⟨⟨t, ht⟩, fun _ => h a (by simp) ⟨t, ht⟩⟩
    rw [after_eq, perform_filled, hok] at he
    cases he
  case names =>
    rw [after_eq, after_eq]
    rfl
  case keys =>
    rw [after_eq, programs_filled hprogram]
    simp [Function.comp_def]
  case templates => exact fun engine name => by rw [after_eq, get?_filled]
  case programs =>
    intro name
    rw [after_eq, hstep .compiled rfl name]
    exact congrArg (Option.map Program.ofTemplate) get?_filled
  case texts =>
    intro engine name data
    rw [after_eq, (hstep engine).render?_eq, get?_filled]

/-- Whatever is added, both registries have the same names, each with the template that was read
last under it, and the compiled one has of each name the program that was accepted last; a text that
is refused changes neither. They are coherent exactly if no text that is read is shown under a name
with a null character: its template is set, but its program is refused. -/
theorem histories_coherent_iff (calls : List Addition) :
    (∀ engine, (after engine calls).1 = calls.map (Addition.outcome engine) ∧
      (∀ a : Addition, a.template? = none →
        (a.perform (after engine calls).2).2 = (after engine calls).2) ∧
      (after engine calls).2.names.Nodup ∧
      ∀ name, (name ∈ (after engine calls).2.names ↔
          (latest Addition.template? calls name).isSome = true) ∧
        (after engine calls).2.get? name = latest Addition.template? calls name) ∧
    (∀ name, Entries.find? (after .compiled calls).2.programs name =
      latest Addition.program? calls name) ∧
    (Coherent calls ↔
      ∀ a ∈ calls, (∃ t, a.template = .ok t) → '\x00' ∉ a.shown.toList) := by
  refine ⟨fun engine => ?_, fun name => ?_, fun h a ha ht => ?_, coherent_of_plain⟩
  · refine ⟨by rw [after_eq], fun _ => perform_unchanged, ?_⟩
    rw [after_eq]
    exact ⟨nodup_names, fun name => ⟨mem_names, get?_filled⟩⟩
  · rw [after_eq]
    exact find?_brought _ _ _
  · have halike : ∀ a ∈ calls, a.outcome .interpreted = a.outcome .compiled := by
      simpa [after_eq] using h.alike
    have hok : a.outcome .interpreted = .ok () := Addition.outcome_eq_ok.mpr ⟨ht, nofun⟩
    exact (Addition.outcome_eq_ok.mp ((halike a ha).symm.trans hok)).2 rfl

/-- A template whose name has a null character renders with one engine only, and its addition fails
with the other but leaves the template. -/
theorem histories_incoherent :
    (after .interpreted [⟨"a\x00", "x", none⟩]).2.render? "a\x00" .null = some "x" ∧
    (after .compiled [⟨"a\x00", "x", none⟩]).1 = [.error .nullCharacter] ∧
    (after .compiled [⟨"a\x00", "x", none⟩]).2.names = ["a\x00"] ∧
    (after .compiled [⟨"a\x00", "x", none⟩]).2.programs = [] ∧
    (after .compiled [⟨"a\x00", "x", none⟩]).2.render? "a\x00" .null = none ∧
    ¬Coherent [⟨"a\x00", "x", none⟩] := by
  have hinterpreted : (after .interpreted [⟨"a\x00", "x", none⟩]).2.render? "a\x00" .null =
      some "x" := by decide +kernel
  have hcompiled : (after .compiled [⟨"a\x00", "x", none⟩]).2.render? "a\x00" .null = none := by
    decide +kernel
  have hprograms : (after .compiled [⟨"a\x00", "x", none⟩]).2.programs.length = 0 := by
    decide +kernel
  refine ⟨hinterpreted, by decide +kernel, by decide +kernel, List.length_eq_zero_iff.mp hprograms,
    hcompiled, fun h => ?_⟩
  have htext := h.texts .interpreted "a\x00" .null
  rw [← h.texts .compiled, hinterpreted, hcompiled] at htext
  cases htext

/-- What is refused leaves the template that was there, and its program. -/
example : (after .compiled [⟨"a", "A", none⟩, ⟨"a", "\x7b\x7b", none⟩]).2.render? "a" .null =
    some "A" := by
  decide +kernel

end Registry

end ViewModel
