import ViewModel.Page
import ViewModel.Proofs.Layout.Plan
import ViewModel.Proofs.Template.Compiled

/-!
Pages of registries that are filled by adding templates. Rendering such a page fails only where
its plan does.
-/

namespace ViewModel

namespace Registry

/-- The registries of an engine that are filled by adding templates. -/
inductive Filled (engine : Engine) : Registry → Prop
  | empty : Filled engine { engine }
  | add {r r' : Registry} {name text : String} {source : Option String} (h : Filled engine r)
      (hadd : r.add name text source = .ok r') : Filled engine r'

variable {engine : Engine} {r r' : Registry} {name text : String} {source : Option String}

theorem set_interpreted (h : r.engine = .interpreted) (name : String) (t : Template) :
    (set name t).outcome r = (.ok (), r.setTemplate name t) := by
  obtain ⟨engine, templates, programs⟩ := r
  obtain rfl : engine = .interpreted := h
  rfl

/-- Where programs are run, the template is set in any case. -/
theorem set_compiled (h : r.engine = .compiled) (name : String) (t : Template) :
    (set name t).outcome r =
      match Program.compile? t with
      | some p => (.ok (), (r.setTemplate name t).setProgram name p)
      | none => (.error .nullCharacter, r.setTemplate name t) := by
  obtain ⟨engine, templates, programs⟩ := r
  obtain rfl : engine = .compiled := h
  have hset : (set name t).outcome ⟨.compiled, templates, programs⟩ =
      ((match Program.compile? t with
        | some p => modify (·.setProgram name p)
        | none => throw .nullCharacter : Filling Unit)).outcome
          (setTemplate ⟨.compiled, templates, programs⟩ name t) := rfl
  rw [hset]
  cases Program.compile? t <;> rfl

theorem adding_outcome (name text : String) (source : Option String) (r : Registry) :
    (adding name text source).outcome r =
      match Template.read text (some (shownSource name source)) with
      | .ok t => (set name t).outcome r
      | .error e => (.error (.template e), r) := by
  rw [adding]
  cases Template.read text (some (shownSource name source)) <;> rfl

theorem add_eq_ok : r.add name text source = .ok r' ↔
    (adding name text source).outcome r = (.ok (), r') := by
  rw [add]
  rcases (adding name text source).outcome r with ⟨e | ⟨⟩, s⟩ <;> simp [Except.map]

/-- With the compiling engine, the programs are those of the templates. -/
def InStep (r : Registry) : Prop := r.engine = .compiled → ∀ name,
  Entries.find? r.programs name = (Entries.find? r.templates name).map Program.ofTemplate

/-- Setting templates and their programs together keeps them in step. -/
theorem InStep.set {t : Template} (h : r.InStep) (hset : (set name t).outcome r = (.ok (), r')) :
    r'.InStep := by
  intro hengine other
  cases hr : r.engine with
  | interpreted =>
    rw [set_interpreted hr] at hset
    obtain ⟨-, rfl⟩ := Prod.mk.inj hset
    cases hr.symm.trans hengine
  | compiled =>
    rw [set_compiled hr] at hset
    cases hp : Program.compile? t with
    | none => simp [hp] at hset
    | some p =>
      obtain rfl : (r.setTemplate name t).setProgram name p = r' := by simpa [hp] using hset
      obtain ⟨-, rfl⟩ := Program.compile?_eq_some.mp hp
      simp only [setProgram, setTemplate]
      by_cases hname : other = name
      · rw [hname, Entries.find?_insert_self, Entries.find?_insert_self, Option.map_some]
      · rw [Entries.find?_insert_of_ne _ hname, Entries.find?_insert_of_ne _ hname, h hr]

theorem InStep.add (h : r.InStep) (hadd : r.add name text source = .ok r') : r'.InStep := by
  rw [add_eq_ok, adding_outcome] at hadd
  split at hadd
  next t _ => exact h.set hadd
  next => cases (Prod.mk.inj hadd).1

theorem Filled.inStep (h : Filled engine r) : r.InStep := by
  induction h with
  | empty => exact fun _ _ => rfl
  | add _ hadd ih => exact ih.add hadd

/-- What is known renders, by either engine, to the text of its template. -/
theorem InStep.render?_eq (h : r.InStep) (name : String) (data : Value) :
    r.render? name data = (r.get? name).map (·.render data) := by
  rw [render?, get?]
  cases hengine : r.engine with
  | interpreted => rfl
  | compiled =>
    dsimp only
    rw [h hengine, Option.bind_map]
    cases Entries.find? r.templates name with
    | none => rfl
    | some t => exact Program.run_ofTemplate t data

/-- What is known renders to a text. -/
theorem InStep.renders (h : r.InStep) (u : RenderUnit) (hknown : r.contains u.name = true) :
    ∃ text, r.renderModule? u.name u.context = some text := by
  obtain ⟨t, ht⟩ := Option.isSome_iff_exists.mp hknown
  exact ⟨t.render u.context.scope, by rw [renderModule?, h.render?_eq, get?, ht, Option.map_some]⟩

/-- The page of a plan that is not refused puts the texts of its modules together. -/
theorem InStep.page_eq (h : r.InStep) {l : Layout} {snapshot : Snapshot} {module : Value}
    {plan : List RenderUnit} (hplan : l.units r.contains snapshot module = .ok plan)
    (hknown : ∀ u ∈ plan, r.contains u.name = true) : ∃ texts, List.Forall₂
      (fun u text => r.renderModule? u.name u.context = some text) plan texts ∧
      r.page l snapshot module = .ok (String.join texts) := by
  obtain ⟨texts, htexts⟩ := Success.exists_forall₂.mpr fun u hu => h.renders u (hknown u hu)
  refine ⟨texts, htexts, Success.bind_of_ok hplan
    (Success.bind_of_ok (Success.mapM_eq_ok.mpr (htexts.imp ?_)) rfl)⟩
  intro u text htext
  rw [htext]

end Registry

/-- Knowing some modules refuses a plan for its first unknown module and changes nothing else; all
names of the plan are among those that are checked without a state. A page of added templates
fails only where its plan is refused. -/
theorem Layout.registry_filters (l : Layout) (snapshot : Snapshot) (module : Value) :
    ∃ plan, l.units (fun _ => true) snapshot module = .ok plan ∧
      (∀ known, l.units known snapshot module = RenderUnit.checked known plan) ∧
      (∀ u ∈ plan, u.name ∈ LayoutNode.leavesOf l) ∧
      (∀ known, l.check known = .ok () → l.units known snapshot module = .ok plan) ∧
      ∀ engine r, Registry.Filled engine r →
        match RenderUnit.checked r.contains plan with
        | .error e => r.page l snapshot module = .error e
        | .ok plan => ∃ texts, List.Forall₂
            (fun u text => r.renderModule? u.name u.context = some text) plan texts ∧
            r.page l snapshot module = .ok (String.join texts) := by
  have hunits : ∀ known, l.units known snapshot module = RenderUnit.checked known
      (LayoutNode.planOf ⟨snapshot, module⟩ l) := fun _ => l.units_eq_checked snapshot module
  have hleaves : ∀ u ∈ LayoutNode.planOf ⟨snapshot, module⟩ l, u.name ∈ LayoutNode.leavesOf l :=
    fun _ => LayoutNode.mem_leavesOf_of_mem_plan _ l
  refine ⟨_, ?_, hunits, hleaves, fun known hcheck => ?_, fun engine r hfilled => ?_⟩
  · rw [hunits]
    exact RenderUnit.checked_eq_ok.mpr ⟨rfl, fun _ _ => rfl⟩
  · rw [hunits]
    exact RenderUnit.checked_eq_ok.mpr
      ⟨rfl, fun u hu => l.check_eq_ok.mp hcheck _ (hleaves u hu)⟩
  · split
    next e herror =>
      rw [Registry.page, hunits, herror]
      rfl
    next plan hplan =>
      obtain ⟨rfl, hknown⟩ := RenderUnit.checked_eq_ok.mp hplan
      exact hfilled.inStep.page_eq ((hunits _).trans hplan) hknown

end ViewModel
