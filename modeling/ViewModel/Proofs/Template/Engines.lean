import ViewModel.Proofs.Template.Compiled
import ViewModel.Proofs.Template.Script
import ViewModel.Proofs.Value.Segment

/-!
The script of a program is its text, and running the script makes what the program makes. A
variable of a script is known by its name, one of a program by its number.
-/

namespace ViewModel

namespace Program

open Script (Term)

/-! The text. -/

theorem indented_congr {depth : Nat} {a b : String} (h : a.toList = b.toList) :
    indented depth a = indented depth b := by
  rw [String.toList_inj.mp h]

theorem lookupTerm_write (n : Nat) (path : List String) :
    (lookupTerm n path).write = lookupText n path := by
  refine String.toList_inj.mp ?_
  -- An equation of `lookupText` would be checked by evaluating its texts.
  delta lookupText
  simp [lookupTerm, Term.write, scopesName]

/-- The head of a test, as both write it. -/
theorem testHead_write (depth : Nat) (negated : Bool) (n : Nat) (path : List String) :
    indented depth ("if " ++ (if negated then "not " else "")
        ++ (Term.call "is_truthy" (lookupTerm n path)).write ++ ":") =
      indented depth ("if " ++ (if negated then "not " else "") ++ "is_truthy("
        ++ lookupText n path ++ "):") := by
  refine indented_congr ?_
  simp [Term.write, lookupTerm_write]

mutual

theorem script_lines (depth : Nat) : ∀ s : Statement, s.script.lines depth = statementLines depth s
  | .appendText s => by
    rw [Statement.script, Script.Statement.lines, statementLines]
    refine congrArg (fun line => [line]) (indented_congr ?_)
    simp [Term.write]
  | .appendValue n path => by
    rw [Statement.script, Script.Statement.lines, statementLines]
    refine congrArg (fun line => [line]) (indented_congr ?_)
    simp [Term.write, lookupTerm_write]
  | .test negated n path [] => by
    rw [Statement.script, Script.Statement.lines, statementLines, testHead_write]
    rfl
  | .test negated n path (s :: rest) => by
    have hbody := scriptBody_lines (depth + 1) (s :: rest)
    rw [Statement.script, Script.Statement.lines, statementLines, testHead_write]
    exact congrArg _ hbody
  | .loop n scopes path => by
    rw [Statement.script, Script.Statement.lines, statementLines]
    refine congrArg₂ (fun head line => [head, line]) (indented_congr ?_) (indented_congr ?_)
    · simp [Term.write, lookupTerm_write, itemName]
    · simp [Term.write, functionName, scopesName, itemName]

theorem scriptBody_lines (depth : Nat) : ∀ body : List Statement,
    Script.bodyLines depth (scriptBody body) = bodyLines depth body
  | [] => rfl
  | s :: rest => by
    rw [scriptBody, Script.bodyLines, bodyLines, script_lines depth s, scriptBody_lines depth rest]

end

theorem function_lines : ∀ f : Function, f.script.lines = functionLines f
  | ⟨n, []⟩ => by
    simp [Function.script, Script.Function.lines, functionLines, scriptBody, suite,
      Script.bodyLines, Script.Statement.lines, functionName, scopesName, ← String.toList_inj]
  | ⟨n, s :: rest⟩ => by
    have hbody : Script.bodyLines 1 (suite (scriptBody (s :: rest))) = bodyLines 1 (s :: rest) :=
      scriptBody_lines 1 (s :: rest)
    simp [Function.script, Script.Function.lines, functionLines, hbody, functionName, scopesName,
      ← String.toList_inj]

theorem main_lines (main : List Statement) : (mainScript main).lines = mainLines main := by
  have hbody := scriptBody_lines 1 main
  have hzero : natText 0 = "0" := by decide
  have hempty : Text.quoted "" = "''" := by decide
  simp [mainScript, Script.Function.lines, Script.bodyLines, hbody, mainLines,
    Script.Statement.lines, Term.write, scopesName, hzero, hempty]

theorem script_text (p : Program) : p.script.text = p.text := by
  have hlines : p.script.map Script.Function.lines =
      p.functions.map functionLines ++ [mainLines p.main] := by
    simp [script, function_lines, main_lines]
  rw [Script.text, text, ← hlines, List.map_map]
  rfl

/-! The run. -/

variable {v n : Nat} {scopes : List Value} {list : Option Script.Datum} {out : List String}
  {s : Script.State} {calls : Script.Calls} {call : Nat → List Value → Option String}

theorem functionName_injective : Function.Injective functionName := by
  intro a b h
  exact natText_injective (by simpa [functionName, ← String.toList_inj] using h)

/-! The names that a script uses are told apart by their first letters. -/

theorem set_of_head {x y : String} (h : (y.toList.head? == x.toList.head?) = false)
    (locals : Script.Variables) (d : Script.Datum) : locals.set x d y = locals y :=
  Script.Variables.set_of_ne (fun hxy => by simp [hxy] at h) locals d

@[simp] theorem scopesName_head (n : Nat) : (scopesName n).toList.head? = some 's' := by
  simp [scopesName]

@[simp] theorem itemName_head (n : Nat) : (itemName n).toList.head? = some 'i' := by
  simp [itemName]

@[simp] theorem functionName_head (n : Nat) : (functionName n).toList.head? = some 'e' := by
  simp [functionName]

/-- What a function of the script finds in its variables, and what the list holds so far. The
functions stay known, since no variable has the name of one. -/
structure Frame (v : Nat) (scopes : List Value) (list : Option Script.Datum)
    (out : List String) (s : Script.State) : Prop where
  scopes : s.locals (scopesName v) = some (.tuple scopes.reverse)
  append : s.locals "_append" = some .append
  functions : ∀ n, s.locals (functionName n) = none
  list : s.locals "out" = list
  output : s.output = some out

namespace Frame

theorem set_item (h : Frame v scopes list out s) (n : Nat) (d : Script.Datum) :
    Frame v scopes list out (s.set (itemName n) d) where
  scopes := by simp [Script.State.set, set_of_head, h.scopes]
  append := by simp [Script.State.set, set_of_head, h.append]
  functions m := by simp [Script.State.set, set_of_head, h.functions]
  list := by simp [Script.State.set, set_of_head, h.list]
  output := h.output

theorem more (h : Frame v scopes list out s) (pieces : List String) :
    Frame v scopes list (out ++ pieces) { s with output := some (out ++ pieces) } :=
  ⟨h.scopes, h.append, h.functions, h.list, rfl⟩

theorem eval_lookup (h : Frame v scopes list out s) (path : List String) :
    s.eval (lookupTerm v path) = some (.value (Template.lookup scopes path)) := by
  simp [lookupTerm, Script.State.eval, h.scopes, Script.helper]

theorem call_append (h : Frame v scopes list out s) (t : String) :
    s.call calls "_append" [.value (.text t)] = some { s with output := some (out ++ [t]) } := by
  simp [Script.State.call, h.append, h.output]

theorem call_function (h : Frame v scopes list out s) (arguments : List Script.Datum) :
    s.call calls (functionName n) arguments =
      (calls (functionName n) arguments (some out)).map fun output => { s with output } := by
  simp [Script.State.call, h.functions, h.output, Option.map_eq_bind]

end Frame

/-- Calls of the script append what calls of the program make. -/
def Simulates (calls : Script.Calls) (call : Nat → List Value → Option String) : Prop :=
  ∀ n scopes text out, call n scopes = some text → ∃ pieces,
    calls (functionName n) [.tuple scopes.reverse, .append] (some out) =
        some (some (out ++ pieces)) ∧
      String.join pieces = text

/-- A part of a function appends a text, in pieces, and leaves the frame. -/
def Appends (v : Nat) (scopes : List Value) (part : Script.State → Option Script.State)
    (text : String) : Prop :=
  ∀ s list out, Frame v scopes list out s → ∃ s' pieces,
    part s = some s' ∧ Frame v scopes list (out ++ pieces) s' ∧ String.join pieces = text

namespace Appends

variable {part more : Script.State → Option Script.State} {text rest : String}

theorem nothing : Appends v scopes some "" := fun s _ _ h =>
  ⟨s, [], rfl, by simpa using h, rfl⟩

theorem trans (h : Appends v scopes part text) (hmore : Appends v scopes more rest) :
    Appends v scopes (fun s => part s >>= more) (text ++ rest) := by
  intro s list out hs
  obtain ⟨s₁, pieces₁, hpart, hframe₁, rfl⟩ := h s list out hs
  obtain ⟨s₂, pieces₂, hpart₂, hframe₂, rfl⟩ := hmore s₁ list _ hframe₁
  refine ⟨s₂, pieces₁ ++ pieces₂, ?_, ?_, String.join_append⟩
  · dsimp only
    rw [hpart]
    exact hpart₂
  · rwa [← List.append_assoc]

/-- The call of `_append` on a text. -/
theorem append_text {t : Script.Term}
    (h : ∀ s list out, Frame v scopes list out s → s.eval t = some (.value (.text text))) :
    Appends v scopes (fun s => Script.exec calls s (.effect (.call "_append" t))) text := by
  intro s list out hs
  refine ⟨_, [text], ?_, hs.more [text], by simp [String.join]⟩
  dsimp only
  rw [Script.exec, h s list out hs]
  exact hs.call_append text

theorem suite {body : List Script.Statement}
    (h : Appends v scopes (fun s => Script.execBody calls s body) text) :
    Appends v scopes (fun s => Script.execBody calls s (suite body)) text := by
  cases body with
  | nil => simpa [Program.suite, Script.execBody, Script.exec] using h
  | cons s rest => exact h

/-- One turn of a loop. -/
theorem turn (hcalls : Simulates calls call) {item : Value}
    (hcall : call n (item :: scopes) = some text) :
    Appends v scopes (fun s => Script.execBody calls (s.set (itemName n) (.value item))
      [.effect (.call₂ (functionName n)
        (.sum (.var (scopesName v)) (.single (.var (itemName n)))) (.var "_append"))]) text := by
  intro s list out hs
  obtain ⟨pieces, hrun, htext⟩ := hcalls n _ _ out hcall
  have hframe := hs.set_item n (.value item)
  have hitem : (s.set (itemName n) (.value item)).locals (itemName n) = some (.value item) := by
    simp [Script.State.set]
  refine ⟨_, pieces, ?_, hframe.more pieces, htext⟩
  simp only [List.reverse_cons] at hrun
  simp [Script.execBody, Script.exec, Script.State.eval, hframe.scopes, hframe.append, hitem,
    hframe.call_function, hrun]

theorem turns {turn : Value → Script.State → Option Script.State} {make : Value → Option String}
    (h : ∀ item text, make item = some text → Appends v scopes (turn item) text) :
    ∀ (items : List Value) (texts : List String), items.mapM make = some texts →
      Appends v scopes (fun s => items.foldlM (fun s item => turn item s) s) (String.join texts)
  | [], texts, hmake => by
    obtain rfl : texts = [] := by simpa [eq_comm] using hmake
    exact nothing
  | item :: items, texts, hmake => by
    simp only [List.mapM_cons, Option.bind_eq_bind, Option.bind_eq_some_iff, Option.pure_def,
      Option.some.injEq] at hmake
    obtain ⟨text, htext, texts, htexts, rfl⟩ := hmake
    rw [String.join_cons]
    simpa only [List.foldlM_cons] using (h item text htext).trans (turns h items texts htexts)

end Appends

mutual

theorem statement_appends (hcalls : Simulates calls call) (v : Nat) (scopes : List Value) :
    ∀ (s : Statement) (text : String), runStatement call v scopes s = some text →
      Appends v scopes (fun state => Script.exec calls state s.script) text
  | .appendText t, text, hrun => by
    obtain rfl : t = text := by simpa [runStatement] using hrun
    exact .append_text fun _ _ _ _ => rfl
  | .appendValue n path, text, hrun => by
    simp only [runStatement, Option.ite_none_right_eq_some, Option.some.injEq] at hrun
    obtain ⟨rfl, rfl⟩ := hrun
    refine .append_text fun s list out hs => ?_
    simp [Script.State.eval, hs.eval_lookup, Script.helper]
  | .test negated n path body, text, hrun => by
    simp only [runStatement, Option.ite_none_right_eq_some] at hrun
    obtain ⟨rfl, hrun⟩ := hrun
    intro s list out hs
    have htest : s.eval (.call "is_truthy" (lookupTerm n path)) =
        some (.value (.bool (Template.lookup scopes path).isTruthy)) := by
      simp [Script.State.eval, hs.eval_lookup, Script.helper]
    simp only [Statement.script, Script.exec, htest, Option.bind_eq_bind, Option.bind_some]
    split at hrun
    · next htaken =>
      rw [if_pos htaken]
      exact (body_appends hcalls n scopes body text hrun).suite s list out hs
    · next htaken =>
      obtain rfl : "" = text := by simpa using hrun
      rw [if_neg htaken]
      exact Appends.nothing s list out hs
  | .loop f n path, text, hrun => by
    simp only [runStatement, Option.ite_none_right_eq_some, Option.map_eq_some_iff] at hrun
    obtain ⟨rfl, texts, htexts, rfl⟩ := hrun
    intro s list out hs
    have hitems : s.eval (.call "iterate" (lookupTerm n path)) =
        some (.tuple (Template.lookup scopes path).items) := by
      simp [Script.State.eval, hs.eval_lookup, Script.helper]
    simp only [Statement.script, Script.exec, hitems]
    exact Appends.turns (fun item text hcall => .turn hcalls hcall) _ texts htexts s list out hs

theorem body_appends (hcalls : Simulates calls call) (v : Nat) (scopes : List Value) :
    ∀ (body : List Statement) (text : String), runBody call v scopes body = some text →
      Appends v scopes (fun state => Script.execBody calls state (scriptBody body)) text
  | [], text, hrun => by
    obtain rfl : "" = text := by simpa [runBody] using hrun
    exact .nothing
  | s :: rest, text, hrun => by
    simp only [runBody, Option.bind_eq_bind, Option.bind_eq_some_iff, Option.pure_def,
      Option.some.injEq] at hrun
    obtain ⟨first, hfirst, more, hmore, rfl⟩ := hrun
    exact (statement_appends hcalls v scopes s first hfirst).trans
      (body_appends hcalls v scopes rest more hmore)

end

/-- The script has the functions of the program under their names. -/
theorem script_find (p : Program) (n : Nat) :
    (p.script.reverse.find? fun f => f.name == functionName n) =
      (p.functions.reverse.find? fun f => f.number == n).map Function.script := by
  have hmain : ("render" == functionName n) = false := by
    simp [functionName, ← String.toList_inj]
  have hname : (fun f : Script.Function => f.name == functionName n) ∘ Function.script =
      fun f => f.number == n :=
    funext fun f => by simp [Function.script, functionName_injective.eq_iff]
  rw [← hname, ← List.find?_map, List.map_reverse]
  simp [script, mainScript, hmain]

/-- A function starts in its frame. -/
theorem Frame.start (n : Nat) (scopes : List Value) (out : List String) :
    Frame n scopes none out
      ⟨.ofArguments [scopesName n, "_append"] [.tuple scopes.reverse, .append], some out⟩ where
  scopes := by simp [Script.Variables.ofArguments, set_of_head]
  append := by simp [Script.Variables.ofArguments]
  functions m := by simp [Script.Variables.ofArguments, set_of_head]
  list := by simp [Script.Variables.ofArguments, Script.Variables.set_of_ne, set_of_head]
  output := rfl

theorem script_simulates (p : Program) : ∀ depth,
    Simulates (fun name arguments output =>
      (p.script.call depth name arguments output).map Prod.snd) (p.call depth)
  | 0 => fun _ _ _ _ hcall => absurd hcall (by simp [Program.call])
  | depth + 1 => by
    intro n scopes text out hcall
    rw [Program.call] at hcall
    split at hcall
    · next f hfind =>
      obtain rfl : f.number = n := by simpa using List.find?_some hfind
      have hbody := body_appends (script_simulates p depth) f.number scopes f.body text hcall
      obtain ⟨s', pieces, hrun, hframe, htext⟩ :=
        hbody.suite _ none out (.start f.number scopes out)
      refine ⟨pieces, ?_, htext⟩
      simp [Script.call, script_find, hfind, Script.Function.call, Function.script, hrun,
        hframe.output]
    · exact absurd hcall (by simp)

/-- The state of `render` once it has its scopes and its list. -/
def mainState (data : Template.Data) : Script.State :=
  let locals : Script.Variables := .ofArguments ["data"] [.data data]
  ⟨((locals.set (scopesName 0) (.tuple [data.scope])).set "out" .list).set "_append" .append,
    some []⟩

theorem Frame.main (data : Template.Data) :
    Frame 0 [data.scope] (some .list) [] (mainState data) where
  scopes := by simp [mainState, set_of_head]
  append := by simp [mainState]
  functions m := by simp [mainState, Script.Variables.ofArguments, set_of_head]
  list := by simp [mainState, Script.Variables.set_of_ne]
  output := rfl

/-- The first statements of `render` lead to its frame. -/
theorem execBody_main (data : Template.Data) (main : List Statement) :
    Script.execBody calls ⟨.ofArguments ["data"] [.data data], none⟩ (mainScript main).body =
      Script.execBody calls (mainState data) (scriptBody main) := by
  simp [mainScript, Script.execBody, Script.exec, Script.State.eval, Script.State.set,
    Script.Variables.ofArguments, Script.helper, mainState]

theorem intercalate_empty : ∀ pieces : List String,
    String.intercalate "" pieces = String.join pieces
  | [] => rfl
  | [s] => by simp
  | s :: t :: rest => by
    rw [String.intercalate_cons_cons, intercalate_empty (t :: rest), String.append_empty,
      ← String.join_cons]

/-- The script makes what the program makes. -/
theorem script_run {p : Program} {data : Template.Data} {text : String}
    (h : p.run data.scope = some text) : p.script.run data = some text := by
  obtain ⟨s', pieces, hrun, hframe, htext⟩ :=
    body_appends (script_simulates p _) 0 [data.scope] p.main text h _ _ [] (.main data)
  have hmain : (p.script.reverse.find? fun f => f.name == "render") = some (mainScript p.main) := by
    simp [script, mainScript]
  have hlength : p.script.length = p.functions.length + 1 := by simp [script]
  have hbody := (execBody_main data p.main).trans hrun
  have hresult : s'.eval (.method (.text "") "join" (.var "out")) =
      some (.value (.text text)) := by
    simp [Script.State.eval, hframe.list, hframe.output, intercalate_empty, htext]
  have hcall : p.script.call p.script.length "render" [.data data] none =
      some (some (.value (.text text)), s'.output) := by
    rw [hlength, Script.call, hmain]
    exact Script.Function.call_of_result (f := mainScript p.main) rfl rfl hbody hresult
  rw [Script.run, hcall]
  rfl

end Program

/-- The script of a template has the text of its program, and both ways to render the template on
any data make one text: running the script, and walking the nodes. -/
theorem Template.engines_agree (t : Template) (data : Template.Data) :
    (Program.ofTemplate t).script.text = (Program.ofTemplate t).text ∧
      (Program.ofTemplate t).script.run data = some (t.render data.scope) :=
  ⟨Program.script_text _, Program.script_run (Program.run_ofTemplate t data.scope)⟩

/-- Loops and tests inside a loop, on a list of records. -/
example :
    (Program.ofTemplate (.mk [.block .each ["items"] 1 [.block .whenTrue ["done"] 1
      [.text "<", .slot ["this", "name"] 1]]] none)).script.run
        (.value (.mapping [("items", .list [.record "a" "a" [("done", .bool true),
          ("name", .text "&")], .record "b" "b" [("name", .text "b")]])])) = some "<&amp;" := by decide

end ViewModel
