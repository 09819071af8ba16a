import ViewModel.Proofs.Template.Engines
import ViewModel.Proofs.Template.Lines
import ViewModel.Proofs.Template.Written

/-!
The form of generated scripts. Every repetition of a template has a function of its own, which is
called in one place and knows no other scopes; loops stand in no loops, no block is empty, and the
text is indented as deep at most as the limit on nested blocks allows.
-/

namespace ViewModel

namespace Template

/-! Nodes inside nodes. -/

mutual

/-- How many repetitions stand in a node. -/
def loops : Node → Nat
  | .text _ | .slot .. => 0
  | .block helper _ _ body => loopsOf body + if helper = .each then 1 else 0

def loopsOf : List Node → Nat
  | [] => 0
  | n :: rest => loops n + loopsOf rest

end

mutual

/-- How deep blocks stand in a node. -/
def levels : Node → Nat
  | .text _ | .slot .. => 0
  | .block _ _ _ body => levelsOf body + 1

def levelsOf : List Node → Nat
  | [] => 0
  | n :: rest => max (levels n) (levelsOf rest)

end

theorem levelsOf_append (a b : List Node) :
    levelsOf (a ++ b) = max (levelsOf a) (levelsOf b) := by
  induction a with
  | nil => simp [levelsOf]
  | cons n a ih => simp [levelsOf, ih, Nat.max_assoc]

@[simp] theorem levelsOf_textNodes (cs : List Char) : levelsOf (textNodes cs) = 0 := by
  unfold textNodes
  split <;> simp [levelsOf, levels]

theorem levelsOf_nodes (items : Items) (line : Nat) :
    levelsOf (items.nodes line) = items.depth := by
  induction items generalizing line with
  | none => rfl
  | slot before tag rest ih =>
    simp [Items.nodes, Items.depth, levelsOf_append, levelsOf, levels, ih]
  | block before start body last stop rest ihbody ihrest =>
    simp [Items.nodes, Items.depth, levelsOf_append, levelsOf, levels, ihbody, ihrest]

/-- The blocks of a template that is read are not nested deeper than the limit. -/
theorem levelsOf_read {text : String} {source : Option String} {t : Template}
    (h : read text source = .ok t) : levelsOf t.nodes ≤ maxBlockDepth := by
  rw [read] at h
  split at h
  next ns hns =>
    obtain rfl := Except.ok.inj h
    obtain ⟨items, e, hdepth, -, rfl⟩ := remains_of_readFrom (Nat.zero_le _) hns
    simpa [levelsOf_append, levelsOf_nodes] using hdepth
  · cases h

end Template

namespace Script

/-! Parts of scripts. -/

/-- The functions that an expression calls. -/
def Term.calls : Term → List String
  | var _ | text _ | texts _ => []
  | single item => item.calls
  | sum left right => left.calls ++ right.calls
  | member object _ => object.calls
  | call function argument => function :: argument.calls
  | call₂ function first second => function :: (first.calls ++ second.calls)
  | method object _ argument => object.calls ++ argument.calls

/-- The variables and functions that an expression mentions. -/
def Term.names : Term → List String
  | var x => [x]
  | text _ | texts _ => []
  | single item => item.names
  | sum left right => left.names ++ right.names
  | member object _ => object.names
  | call function argument => function :: argument.names
  | call₂ function first second => function :: (first.names ++ second.names)
  | method object _ argument => object.names ++ argument.names

namespace Statement

/-- The variable that a statement sets. -/
def target? : Statement → Option String
  | assign x _ | newList x | loop x _ _ => some x
  | pass | effect _ | test .. => none

/-- The expression of a statement. -/
def term? : Statement → Option Term
  | assign _ t | effect t | test _ t _ | loop _ t _ => some t
  | pass | newList _ => none

/-- The block that stands in a statement. -/
def block? : Statement → Option (List Statement)
  | test _ _ body | loop _ _ body => some body
  | pass | assign .. | newList _ | effect _ => none

def isLoop : Statement → Bool
  | loop .. => true
  | _ => false

end Statement

mutual

/-- A statement and the statements in it, at any depth. -/
def Statement.parts : Statement → List Statement
  | .test negated t body => .test negated t body :: bodyParts body
  | .loop x t body => .loop x t body :: bodyParts body
  | s => [s]

def bodyParts : List Statement → List Statement
  | [] => []
  | s :: rest => s.parts ++ bodyParts rest

end

/-- A loop has no loop in it, at any depth. -/
def Statement.IsFlat (s : Statement) : Prop :=
  s.isLoop = true → ∀ block ∈ s.block?, ∀ inner ∈ bodyParts block, inner.isLoop = false

/-- A statement with a block has something in it. -/
def Statement.IsFilled (s : Statement) : Prop := s.block? ≠ some []

theorem Statement.isFlat_of_isLoop_eq_false {s : Statement} (h : s.isLoop = false) : s.IsFlat := by
  simp [IsFlat, h]

theorem Statement.isFlat_and_isFilled_of_block?_eq_none {s : Statement} (h : s.block? = none) :
    s.IsFlat ∧ s.IsFilled := by
  simp [IsFlat, IsFilled, h]

def bodyTerms (body : List Statement) : List Term := (bodyParts body).filterMap Statement.term?

def bodyCalls (body : List Statement) : List String := (bodyTerms body).flatMap Term.calls

def bodyNames (body : List Statement) : List String :=
  (bodyParts body).filterMap Statement.target? ++ (bodyTerms body).flatMap Term.names

namespace Function

/-- The functions that a function calls, once for each place. -/
def calls (f : Function) : List String := bodyCalls f.body ++ f.result.toList.flatMap Term.calls

/-- All names that a function mentions, those of its parameters included. -/
def names (f : Function) : List String :=
  f.parameters ++ bodyNames f.body ++ f.result.toList.flatMap Term.names

end Function

/-- The form of a script for a template with some repetitions: a function for each of them, in any
order, and then the main one. -/
structure WellFormed (script : Script) (loops : Nat) : Prop where
  defined : ∃ numbers : List Nat, numbers.Perm (List.range' 1 loops) ∧
    script.map Function.name = numbers.map Program.functionName ++ ["render"]
  called : ∀ n, (script.flatMap Function.calls).count (Program.functionName n) =
    if 1 ≤ n ∧ n ≤ loops then 1 else 0
  own : ∀ f ∈ script, ∀ n, Program.scopesName n ∈ f.names ↔
    f.name = Program.functionName n ∨ f.name = "render" ∧ n = 0
  flat : ∀ f ∈ script, ∀ s ∈ bodyParts f.body, s.IsFlat
  filled : ∀ f ∈ script, f.body ≠ [] ∧ ∀ s ∈ bodyParts f.body, s.IsFilled

theorem bodyParts_append (a b : List Statement) :
    bodyParts (a ++ b) = bodyParts a ++ bodyParts b := by
  induction a with
  | nil => rfl
  | cons s a ih => rw [List.cons_append, bodyParts, bodyParts, ih, List.append_assoc]

theorem bodyCalls_append (a b : List Statement) :
    bodyCalls (a ++ b) = bodyCalls a ++ bodyCalls b := by
  simp [bodyCalls, bodyTerms, bodyParts_append]

theorem mem_bodyNames_append {a b : List Statement} {x : String} :
    x ∈ bodyNames (a ++ b) ↔ x ∈ bodyNames a ∨ x ∈ bodyNames b := by
  simp only [bodyNames, bodyTerms, bodyParts_append, List.filterMap_append, List.flatMap_append,
    List.mem_append]
  tauto

section Test

variable {negated : Bool} {t : Term} {block : List Statement} {x : String}

theorem bodyCalls_test : bodyCalls [.test negated t block] = t.calls ++ bodyCalls block := by
  simp [bodyCalls, bodyTerms, bodyParts, Statement.parts, Statement.term?]

theorem mem_bodyNames_test :
    x ∈ bodyNames [.test negated t block] ↔ x ∈ t.names ∨ x ∈ bodyNames block := by
  simp only [bodyNames, bodyTerms, bodyParts, Statement.parts, Statement.term?, Statement.target?,
    List.append_nil, List.filterMap_cons, List.flatMap_cons, List.mem_append]
  tauto

end Test

end Script

namespace Program

theorem scriptBody_append (a b : List Statement) :
    scriptBody (a ++ b) = scriptBody a ++ scriptBody b := by
  induction a with
  | nil => rfl
  | cons s a ih => rw [List.cons_append, scriptBody, scriptBody, ih, List.cons_append]

theorem suite_ne_nil (body : List Script.Statement) : suite body ≠ [] := by
  cases body <;> simp [suite]

@[simp] theorem bodyCalls_suite (body : List Script.Statement) :
    Script.bodyCalls (suite body) = Script.bodyCalls body := by
  cases body <;> rfl

@[simp] theorem bodyNames_suite (body : List Script.Statement) :
    Script.bodyNames (suite body) = Script.bodyNames body := by
  cases body <;> rfl

/-! No statement of a program has a loop in a loop or a block with nothing in it. -/

theorem suite_parts {body : List Script.Statement}
    (h : ∀ part ∈ Script.bodyParts body, part.IsFlat ∧ part.IsFilled) :
    ∀ part ∈ Script.bodyParts (suite body), part.IsFlat ∧ part.IsFilled := by
  cases body with
  | nil =>
    intro part hpart
    obtain rfl := List.mem_singleton.mp hpart
    exact Script.Statement.isFlat_and_isFilled_of_block?_eq_none rfl
  | cons s rest => exact h

mutual

theorem script_parts : ∀ s : Statement, ∀ part ∈ s.script.parts, part.IsFlat ∧ part.IsFilled
  | .appendText _, part, hpart | .appendValue .., part, hpart => by
    obtain rfl := List.mem_singleton.mp hpart
    exact Script.Statement.isFlat_and_isFilled_of_block?_eq_none rfl
  | .test negated n path body, part, hpart => by
    rw [Statement.script, Script.Statement.parts] at hpart
    rcases List.mem_cons.mp hpart with rfl | hpart
    · refine ⟨Script.Statement.isFlat_of_isLoop_eq_false rfl, fun h => ?_⟩
      exact suite_ne_nil _ (Option.some.inj h)
    · exact suite_parts (scriptBody_parts body) part hpart
  | .loop n scopes path, part, hpart => by
    simp only [Statement.script, Script.Statement.parts, Script.bodyParts, List.append_nil,
      List.mem_cons, List.not_mem_nil, or_false] at hpart
    rcases hpart with rfl | rfl
    · refine ⟨fun _ block hblock inner hinner => ?_, nofun⟩
      obtain rfl := Option.some.inj hblock
      obtain rfl := List.mem_singleton.mp hinner
      rfl
    · exact Script.Statement.isFlat_and_isFilled_of_block?_eq_none rfl

theorem scriptBody_parts : ∀ body : List Statement,
    ∀ part ∈ Script.bodyParts (scriptBody body), part.IsFlat ∧ part.IsFilled
  | [], part, hpart => by cases hpart
  | s :: rest, part, hpart => by
    rw [scriptBody, Script.bodyParts] at hpart
    rcases List.mem_append.mp hpart with hpart | hpart
    · exact script_parts s part hpart
    · exact scriptBody_parts rest part hpart

end

/-! Names. -/

theorem scopesName_injective : Function.Injective scopesName := by
  intro a b h
  exact natText_injective (by simpa [scopesName, ← String.toList_inj] using h)

theorem scopesName_ne {n : Nat} {x : String} (h : (x.toList.head? == some 's') = false) :
    scopesName n ≠ x := by
  rintro rfl
  simp at h

theorem scopesName_ne_itemName (m n : Nat) : scopesName m ≠ itemName n := scopesName_ne (by simp)

theorem scopesName_ne_functionName (m n : Nat) : scopesName m ≠ functionName n :=
  scopesName_ne (by simp)

/-- The statements mention no scopes but those in the variable of one number, and blocks stand in
them so deep at most. -/
structure Confined (v levels : Nat) (body : List Statement) : Prop where
  own : ∀ n, scopesName n ∈ Script.bodyNames (scriptBody body) → n = v
  shallow : bodyLevels body ≤ levels

namespace Confined

variable {v levels : Nat} {a b body : List Statement}

theorem nil : Confined v levels [] where
  own _ h := by cases h
  shallow := Nat.zero_le _

theorem mono {more : Nat} (h : Confined v levels body) (hle : levels ≤ more) :
    Confined v more body := ⟨h.own, Nat.le_trans h.shallow hle⟩

theorem append (ha : Confined v levels a) (hb : Confined v levels b) :
    Confined v levels (a ++ b) where
  own n h := by
    rw [scriptBody_append] at h
    exact (Script.mem_bodyNames_append.mp h).elim (ha.own n) (hb.own n)
  shallow := by
    rw [bodyLevels_append]
    exact Nat.max_le.mpr ⟨ha.shallow, hb.shallow⟩

theorem appendText (s : String) : Confined v levels [.appendText s] where
  own n h := by
    have hnames : Script.bodyNames (scriptBody [.appendText s]) = ["_append"] := rfl
    rw [hnames] at h
    exact absurd (List.mem_singleton.mp h) (scopesName_ne (by decide))
  shallow := Nat.zero_le _

theorem appendValue (path : List String) : Confined v levels [.appendValue v path] where
  own n h := by
    have hnames : Script.bodyNames (scriptBody [.appendValue v path]) =
        ["_append", "escape_html", "display_value", "lookup", scopesName v] := rfl
    rw [hnames] at h
    simpa (disch := decide) [scopesName_ne, scopesName_injective.eq_iff] using h
  shallow := Nat.zero_le _

theorem test (negated : Bool) (path : List String) (h : Confined v levels body) :
    Confined v (levels + 1) [.test negated v path body] where
  own n hn := by
    rw [scriptBody, Statement.script, scriptBody, Script.mem_bodyNames_test, bodyNames_suite] at hn
    rcases hn with hn | hn
    · have hnames : (Script.Term.call "is_truthy" (lookupTerm v path)).names =
          ["is_truthy", "lookup", scopesName v] := rfl
      rw [hnames] at hn
      simpa (disch := decide) [scopesName_ne, scopesName_injective.eq_iff] using hn
    · exact h.own n hn
  shallow := by
    have hshallow := h.shallow
    simp only [bodyLevels, Statement.levels]
    omega

theorem loop (n : Nat) (path : List String) : Confined v (levels + 1) [.loop n v path] where
  own m h := by
    have hnames : Script.bodyNames (scriptBody [.loop n v path]) =
        [itemName n, "iterate", "lookup", scopesName v, functionName n, scopesName v, itemName n,
          "_append"] := rfl
    rw [hnames] at h
    simpa (disch := decide) [scopesName_ne, scopesName_injective.eq_iff, scopesName_ne_itemName,
      scopesName_ne_functionName] using h
  shallow := by
    simp only [bodyLevels, Statement.levels]
    omega

end Confined

/-! What is made of nodes. -/

/-- A name that does not begin like those of functions for repetitions. -/
def isOther (x : String) : Bool := x.toList.take 2 != ['e', 'a']

theorem count_of_isOther {n : Nat} {names : List String} (h : names.all isOther = true) :
    names.count (functionName n) = 0 := by
  refine List.count_eq_zero.mpr fun hmem => ?_
  have hname := List.all_eq_true.mp h _ hmem
  simp [isOther, functionName] at hname

/-- The functions that are called, once for each place. -/
def Compiled.calls (c : Compiled) : List String :=
  Script.bodyCalls (scriptBody c.statements) ++
    c.functions.flatMap fun f => Script.bodyCalls (scriptBody f.body)

/-- What is made of nodes in a function of number `v`, after `last` functions. -/
structure Compiled.Shaped (v last loops levels : Nat) (c : Compiled) : Prop where
  last_eq : c.last = last + loops
  numbers : (c.functions.map Function.number).Perm (List.range' (last + 1) loops)
  called : ∀ n, c.calls.count (functionName n) = (c.functions.map Function.number).count n
  own : Confined v levels c.statements
  functions : ∀ f ∈ c.functions, Confined f.number levels f.body

namespace Compiled.Shaped

variable {v last loops levels : Nat} {c d : Compiled}

theorem none : Shaped v last 0 levels ⟨[], [], last⟩ where
  last_eq := rfl
  numbers := .refl _
  called _ := rfl
  own := .nil
  functions _ h := by cases h

/-- A statement that calls no function of a repetition. -/
theorem single {s : Statement} (hs : Confined v levels [s]) (calls : List String)
    (hcalls : Script.bodyCalls (scriptBody [s]) = calls) (hother : calls.all isOther = true) :
    Shaped v last 0 levels ⟨[s], [], last⟩ where
  last_eq := rfl
  numbers := .refl _
  called n := by simp [Compiled.calls, hcalls, count_of_isOther hother]
  own := hs
  functions _ h := by cases h

theorem mono {more : Nat} (h : Shaped v last loops levels c) (hle : levels ≤ more) :
    Shaped v last loops more c where
  last_eq := h.last_eq
  numbers := h.numbers
  called := h.called
  own := h.own.mono hle
  functions f hf := (h.functions f hf).mono hle

theorem append {loops' : Nat} (hc : Shaped v last loops levels c)
    (hd : Shaped v c.last loops' levels d) : Shaped v last (loops + loops') levels
      ⟨c.statements ++ d.statements, c.functions ++ d.functions, d.last⟩ where
  last_eq := by
    have h := hd.last_eq
    rw [hc.last_eq] at h
    dsimp only
    omega
  numbers := by
    have h := hd.numbers
    rw [hc.last_eq] at h
    rw [List.map_append, ← List.range'_append_1, Nat.add_right_comm]
    exact hc.numbers.append h
  called n := by
    have hcn := hc.called n
    have hdn := hd.called n
    simp only [Compiled.calls, List.count_append, scriptBody_append, Script.bodyCalls_append,
      List.flatMap_append, List.map_append] at hcn hdn ⊢
    omega
  own := hc.own.append hd.own
  functions f hf := (List.mem_append.mp hf).elim (hc.functions f) (hd.functions f)

/-- A test has the functions of its body. -/
theorem test (negated : Bool) (path : List String) (h : Shaped v last loops levels c) :
    Shaped v last loops (levels + 1)
      { c with statements := [.test negated v path c.statements] } where
  last_eq := h.last_eq
  numbers := h.numbers
  called n := by
    have hcount := h.called n
    have hcalls : Script.bodyCalls (scriptBody [.test negated v path c.statements]) =
        ["is_truthy", "lookup"] ++ Script.bodyCalls (scriptBody c.statements) := by
      rw [scriptBody, Statement.script, scriptBody, Script.bodyCalls_test, bodyCalls_suite]
      rfl
    simp only [Compiled.calls, List.count_append] at hcount ⊢
    rw [hcalls, List.count_append, count_of_isOther (by decide), Nat.zero_add]
    exact hcount
  own := h.own.test negated path
  functions f hf := (h.functions f hf).mono (Nat.le_succ _)

/-- The body of a repetition is a function of its own. -/
theorem loop (path : List String) (h : Shaped (last + 1) (last + 1) loops levels c) :
    Shaped v last (loops + 1) (levels + 1)
      ⟨[.loop (last + 1) v path], c.functions ++ [⟨last + 1, c.statements⟩], c.last⟩ where
  last_eq := by
    have hlast := h.last_eq
    dsimp only
    omega
  numbers := by
    rw [List.map_append, List.range'_succ]
    exact (List.perm_append_singleton _ _).trans (h.numbers.cons _)
  called n := by
    have hcount := h.called n
    have hcalls : Script.bodyCalls (scriptBody [.loop (last + 1) v path]) =
        ["iterate", "lookup"] ++ [functionName (last + 1)] := rfl
    have hown : [functionName (last + 1)].count (functionName n) = [last + 1].count n := by
      simp [List.count_singleton, functionName_injective.eq_iff]
    simp only [Compiled.calls, List.count_append, List.flatMap_append, List.map_append,
      List.flatMap_singleton, List.map_singleton] at hcount ⊢
    rw [hcalls, List.count_append, count_of_isOther (by decide), hown]
    omega
  own := .loop _ path
  functions f hf := by
    rcases List.mem_append.mp hf with hf | hf
    · exact (h.functions f hf).mono (Nat.le_succ _)
    · obtain rfl := List.mem_singleton.mp hf
      exact h.own.mono (Nat.le_succ _)

end Compiled.Shaped

open Template (loops loopsOf levels levelsOf)

-- By induction on the nodes, for every number that functions are counted from: the body of a
-- repetition is compiled with its own number, what comes after it goes on from the last one.
mutual

theorem compileNode_shaped (v last : Nat) : ∀ node : Node,
    (compileNode v last node).Shaped v last (loops node) (levels node)
  | .text s => .single (.appendText s) ["_append"] rfl (by decide)
  | .slot path _ => .single (.appendValue path)
      ["_append", "escape_html", "display_value", "lookup"] rfl (by decide)
  | .block .whenTrue path _ body => (compileNodes_shaped v last body).test false path
  | .block .whenFalse path _ body => (compileNodes_shaped v last body).test true path
  | .block .each path _ body => (compileNodes_shaped _ _ body).loop path

theorem compileNodes_shaped (v last : Nat) : ∀ nodes : List Node,
    (compileNodes v last nodes).Shaped v last (loopsOf nodes) (levelsOf nodes)
  | [] => .none
  | node :: rest => ((compileNode_shaped v last node).mono (Nat.le_max_left _ _)).append
      ((compileNodes_shaped v _ rest).mono (Nat.le_max_right _ _))

end

/-! The script of a template. -/

variable {p : Program} {f : Script.Function} {n : Nat}

theorem mem_script : f ∈ p.script ↔ (∃ g ∈ p.functions, f = g.script) ∨ f = mainScript p.main := by
  simp [script, eq_comm]

theorem functionName_ne_render (n : Nat) : functionName n ≠ "render" := by
  simp [functionName, ← String.toList_inj]

theorem names_script (g : Function) : g.script.names =
    [scopesName g.number, "_append"] ++ Script.bodyNames (scriptBody g.body) := by
  simp [Script.Function.names, Function.script]

/-- The statements that the main function begins with. -/
def prologue : List Script.Statement :=
  [.assign (scopesName 0) (.single (.call "root_scope" (.var "data"))), .newList "out",
    .assign "_append" (.member (.var "out") "append")]

theorem mainScript_body (main : List Statement) :
    (mainScript main).body = prologue ++ scriptBody main := rfl

theorem names_mainScript (main : List Statement) : scopesName n ∈ (mainScript main).names ↔
    n = 0 ∨ scopesName n ∈ Script.bodyNames (scriptBody main) := by
  have hprologue : Script.bodyNames prologue =
      [scopesName 0, "out", "_append", "root_scope", "data", "out"] := rfl
  have hresult : (mainScript main).result.toList.flatMap Script.Term.names = ["out"] := rfl
  have hparameters : (mainScript main).parameters = ["data"] := rfl
  simp only [Script.Function.names, List.mem_append, hresult, hparameters, mainScript_body,
    Script.mem_bodyNames_append, hprologue]
  simp (disch := decide) [scopesName_ne, scopesName_injective.eq_iff]

theorem calls_script (p : Program) : p.script.flatMap Script.Function.calls =
    (p.functions.flatMap fun f => Script.bodyCalls (scriptBody f.body)) ++
      ("root_scope" :: Script.bodyCalls (scriptBody p.main)) := by
  have hmain : (mainScript p.main).calls = "root_scope" :: Script.bodyCalls (scriptBody p.main) := by
    rw [Script.Function.calls, mainScript_body, Script.bodyCalls_append]
    exact List.append_nil _
  have hfunction (f : Function) : f.script.calls = Script.bodyCalls (scriptBody f.body) := by
    simp [Script.Function.calls, Function.script]
  simp [script, hmain, hfunction, List.flatMap_map]

theorem parts_of_mem_script (hf : f ∈ p.script) :
    f.body ≠ [] ∧ ∀ s ∈ Script.bodyParts f.body, s.IsFlat ∧ s.IsFilled := by
  rcases mem_script.mp hf with ⟨g, hg, rfl⟩ | rfl
  · exact ⟨suite_ne_nil _, suite_parts (scriptBody_parts g.body)⟩
  · refine ⟨List.cons_ne_nil _ _, fun s hs => ?_⟩
    rw [mainScript_body, Script.bodyParts_append] at hs
    rcases List.mem_append.mp hs with hs | hs
    · simp only [prologue, Script.bodyParts, Script.Statement.parts, List.append_nil,
        List.singleton_append, List.mem_cons, List.not_mem_nil, or_false] at hs
      rcases hs with rfl | rfl | rfl
      all_goals exact Script.Statement.isFlat_and_isFilled_of_block?_eq_none rfl
    · exact scriptBody_parts p.main s hs

/-- What is compiled for nodes makes a script in form. -/
theorem script_wellFormed {last loops levels : Nat}
    (h : (Compiled.mk p.main p.functions last).Shaped 0 0 loops levels) :
    p.script.WellFormed loops where
  defined := by
    refine ⟨p.functions.map Function.number, h.numbers, ?_⟩
    simp [script, Function.script, mainScript, Function.comp_def]
  called n := by
    have hcount := (h.called n).trans (h.numbers.count_eq n)
    have hroot : ["root_scope"].count (functionName n) = 0 := count_of_isOther (by decide)
    have hnodup : (List.range' 1 loops).Nodup := List.nodup_range'
    rw [calls_script, ← List.singleton_append, List.count_append, List.count_append, hroot]
    simp only [Compiled.calls, List.count_append] at hcount
    rw [Nat.zero_add, Nat.add_comm, hcount, Nat.zero_add, hnodup.count]
    simp only [List.mem_range'_1]
    exact if_congr (by omega) rfl rfl
  own f hf n := by
    rcases mem_script.mp hf with ⟨g, hg, rfl⟩ | rfl
    · have hown := (h.functions g hg).own n
      have hname : g.script.name = functionName g.number := rfl
      rw [names_script, hname, functionName_injective.eq_iff]
      simpa (disch := decide) [scopesName_ne, scopesName_injective.eq_iff,
        functionName_ne_render, @eq_comm _ g.number] using hown
    · have hown := h.own.own n
      have hname : (mainScript p.main).name = "render" := rfl
      rw [names_mainScript, hname]
      simpa [(functionName_ne_render n).symm] using hown
  flat f hf s hs := ((parts_of_mem_script hf).2 s hs).1
  filled f hf :=
    ⟨(parts_of_mem_script hf).1, fun s hs => ((parts_of_mem_script hf).2 s hs).2⟩

end Program

namespace Template

/-- The text that is generated for a template is that of a script in form, and no line of it is
indented deeper than the limit on nested blocks allows. -/
theorem generated_wellFormed {text : String} {source : Option String} {t : Template}
    (h : read text source = .ok t) :
    (Program.ofTemplate t).script.text = (Program.ofTemplate t).text ∧
      (Program.ofTemplate t).script.WellFormed (loopsOf t.nodes) ∧
      ∀ line ∈ (Program.ofTemplate t).text.toList.splitOn '\n',
        Program.IndentedAtMost (maxBlockDepth + 2) line := by
  have hshaped := Program.compileNodes_shaped 0 0 t.nodes
  have hlevels := levelsOf_read h
  refine ⟨Program.script_text _, Program.script_wellFormed hshaped, fun line hline => ?_⟩
  have hline := Program.text_indented hshaped.own.shallow
    (fun f hf => (hshaped.functions f hf).shallow) line hline
  exact hline.mono (by omega)

/-- A repetition in another, behind a test of nothing. -/
def Sample.rows : String := "\x7b\x7b#each rows\x7d\x7d\x7b\x7b#if a\x7d\x7d\x7b\x7b/if\x7d\x7d"
  ++ "\x7b\x7b#each this\x7d\x7d'\n\x7b\x7bb\x7d\x7d\x7b\x7b/each\x7d\x7d\x7b\x7b/each\x7d\x7d"

theorem generated_wellFormed_rows : ∃ t, read Sample.rows none = .ok t ∧
    (Program.ofTemplate t).script.WellFormed 2 := by
  have hrows : (read Sample.rows none).toOption.map (fun t => loopsOf t.nodes) = some 2 := by
    decide +kernel
  obtain ⟨t, ht, hloops⟩ := Option.map_eq_some_iff.mp hrows
  have hread := Success.toOption_eq_some.mp ht
  obtain ⟨-, hform, -⟩ := generated_wellFormed hread
  exact ⟨t, hread, hloops ▸ hform⟩

end Template

end ViewModel
