import Mathlib.Data.List.Nodup
import ViewModel.Template.Program

/-!
The program of a template makes the text that the template itself makes. Every `each` has a
function of a number of its own, so a call finds the body that belongs to the loop.
-/

namespace ViewModel.Program

variable {v last depth n : Nat} {scopes : List Value} {call : Nat → List Value → Option String}

/-- The functions that are made after `last` have numbers of their own, up to the last one used. -/
structure Compiled.Numbered (last : Nat) (c : Compiled) : Prop where
  le_last : last ≤ c.last
  range : ∀ f ∈ c.functions, last < f.number ∧ f.number ≤ c.last
  nodup : (c.functions.map Function.number).Nodup

namespace Compiled.Numbered

variable {c d : Compiled}

theorem none (last : Nat) (statements : List Statement) :
    Numbered last ⟨statements, [], last⟩ :=
  ⟨Nat.le_refl _, by simp, by simp⟩

theorem append (hc : Numbered last c) (hd : Numbered c.last d) :
    Numbered last ⟨c.statements ++ d.statements, c.functions ++ d.functions, d.last⟩ := by
  refine ⟨Nat.le_trans hc.le_last hd.le_last, fun f hf => ?_, ?_⟩
  · have hle := hc.le_last
    have hle' := hd.le_last
    rcases List.mem_append.mp hf with hf | hf
    · have hrange := hc.range f hf
      dsimp only
      omega
    · have hrange := hd.range f hf
      dsimp only
      omega
  · rw [List.map_append]
    refine hc.nodup.append hd.nodup fun n hn hn' => ?_
    obtain ⟨f, hf, rfl⟩ := List.mem_map.mp hn
    obtain ⟨g, hg, hnumber⟩ := List.mem_map.mp hn'
    have hrange := (hc.range f hf).2
    have hrange' := (hd.range g hg).1
    omega

/-- The function of a loop is numbered before those of its body. -/
theorem loop (hc : Numbered (last + 1) c) (statements : List Statement) :
    Numbered last ⟨statements, c.functions ++ [⟨last + 1, c.statements⟩], c.last⟩ := by
  have hle := hc.le_last
  refine ⟨by dsimp only; omega, fun f hf => ?_, ?_⟩
  · rcases List.mem_append.mp hf with hf | hf
    · have hrange := hc.range f hf
      dsimp only
      omega
    · obtain rfl := List.mem_singleton.mp hf
      dsimp only
      omega
  · rw [List.map_append]
    refine hc.nodup.append (List.nodup_singleton _) fun n hn hn' => ?_
    obtain ⟨f, hf, rfl⟩ := List.mem_map.mp hn
    have hlast : f.number = last + 1 := List.mem_singleton.mp hn'
    have hrange := (hc.range f hf).1
    omega

end Compiled.Numbered

mutual

theorem compileNode_numbered (v last : Nat) : ∀ node : Node,
    (compileNode v last node).Numbered last
  | .text _ | .slot .. => .none _ _
  | .block .whenTrue _ _ body | .block .whenFalse _ _ body =>
    let h := compileNodes_numbered v last body
    ⟨h.le_last, h.range, h.nodup⟩
  | .block .each _ _ body => (compileNodes_numbered _ _ body).loop _

theorem compileNodes_numbered (v last : Nat) : ∀ nodes : List Node,
    (compileNodes v last nodes).Numbered last
  | [] => .none _ _
  | node :: rest => (compileNode_numbered v last node).append (compileNodes_numbered _ _ rest)

end

/-- A function is found by its number where no other function has it. -/
theorem call_of_mem {p : Program} (hp : (p.functions.map Function.number).Nodup) {f : Function}
    (hf : f ∈ p.functions) :
    p.call (depth + 1) f.number scopes = runBody (p.call depth) f.number scopes f.body := by
  have hsome : (p.functions.reverse.find? fun g => g.number == f.number).isSome = true := by
    rw [List.find?_isSome]
    exact ⟨f, List.mem_reverse.mpr hf, by simp⟩
  obtain ⟨g, hg⟩ := Option.isSome_iff_exists.mp hsome
  have hnumber : g.number = f.number := by simpa using List.find?_some hg
  have hmem : g ∈ p.functions := List.mem_reverse.mp (List.mem_of_find?_eq_some hg)
  obtain rfl := List.inj_on_of_nodup_map hp hmem hf hnumber
  rw [Program.call, hg]

theorem runBody_append (a b : List Statement) :
    runBody call v scopes (a ++ b) = (do
      let first ← runBody call v scopes a
      let more ← runBody call v scopes b
      return first ++ more) := by
  induction a with
  | nil => cases h : runBody call v scopes b <;> simp [runBody, h]
  | cons s a ih =>
    rw [List.cons_append, runBody, runBody, ih]
    cases runStatement call v scopes s with
    | none => rfl
    | some first =>
      cases runBody call v scopes a with
      | none => rfl
      | some second => cases runBody call v scopes b <;> simp [String.append_assoc]

theorem runBody_singleton (s : Statement) :
    runBody call v scopes [s] = runStatement call v scopes s := by
  simp only [runBody]
  cases runStatement call v scopes s <;> simp

theorem runStatement_loop {path : List String} {body : Value → String}
    (hcall : ∀ item, call n (item :: scopes) = some (body item)) :
    runStatement call v scopes (.loop n v path) =
      some (String.join ((Template.lookup scopes path).items.map body)) := by
  have hcalls (items : List Value) :
      items.mapM (fun item => call n (item :: scopes)) = some (items.map body) := by
    induction items with
    | nil => rfl
    | cons item items ih =>
      rw [List.mapM_cons, hcall, ih]
      rfl
  simp [runStatement, hcalls]

mutual

/-- What is compiled for a node makes the text of the node, in any program that has the functions
and for any limit on calls that leaves one for each of them. -/
theorem compileNode_run {p : Program} (hp : (p.functions.map Function.number).Nodup)
    (v last depth : Nat) (scopes : List Value) : ∀ node : Node,
    (compileNode v last node).functions ⊆ p.functions →
    (compileNode v last node).functions.length ≤ depth →
    runBody (p.call depth) v scopes (compileNode v last node).statements =
      some (Template.renderNode scopes node)
  | .text s, _, _ => by
    rw [compileNode, runBody_singleton, runStatement, Template.renderNode]
  | .slot path _, _, _ => by
    rw [compileNode, runBody_singleton, runStatement, Template.renderNode]
    simp
  | .block .whenTrue path _ body, hsub, hdepth => by
    have hbody := compileNodes_run hp v last depth scopes body hsub hdepth
    rw [compileNode, runBody_singleton, runStatement, Template.renderNode, hbody]
    cases (Template.lookup scopes path).isTruthy <;> simp
  | .block .whenFalse path _ body, hsub, hdepth => by
    have hbody := compileNodes_run hp v last depth scopes body hsub hdepth
    rw [compileNode, runBody_singleton, runStatement, Template.renderNode, hbody]
    cases (Template.lookup scopes path).isTruthy <;> simp
  | .block .each path _ body, hsub, hdepth => by
    rw [compileNode] at hsub hdepth
    rw [List.append_subset] at hsub
    rw [List.length_append, List.length_singleton] at hdepth
    obtain ⟨depth, rfl⟩ : ∃ d, depth = d + 1 := ⟨depth - 1, by omega⟩
    rw [compileNode, runBody_singleton, Template.renderNode]
    refine runStatement_loop fun item => ?_
    have hbody := compileNodes_run hp (last + 1) (last + 1) depth (item :: scopes) body hsub.1
      (by omega)
    exact (call_of_mem hp (hsub.2 (List.mem_singleton_self _))).trans hbody

theorem compileNodes_run {p : Program} (hp : (p.functions.map Function.number).Nodup)
    (v last depth : Nat) (scopes : List Value) : ∀ nodes : List Node,
    (compileNodes v last nodes).functions ⊆ p.functions →
    (compileNodes v last nodes).functions.length ≤ depth →
    runBody (p.call depth) v scopes (compileNodes v last nodes).statements =
      some (Template.renderNodes scopes nodes)
  | [], _, _ => rfl
  | node :: rest, hsub, hdepth => by
    rw [compileNodes] at hsub hdepth
    rw [List.append_subset] at hsub
    rw [List.length_append] at hdepth
    rw [compileNodes, runBody_append,
      compileNode_run hp v last depth scopes node hsub.1 (by omega),
      compileNodes_run hp v _ depth scopes rest hsub.2 (by omega), Template.renderNodes]
    rfl

end

/-- The program of a template makes the text that the template makes. -/
theorem run_ofTemplate (t : Template) (data : Value) :
    (ofTemplate t).run data = some (t.render data) :=
  compileNodes_run (compileNodes_numbered 0 0 t.nodes).nodup 0 0 _ [data] t.nodes
    (List.Subset.refl _) (Nat.le_refl _)

end ViewModel.Program
