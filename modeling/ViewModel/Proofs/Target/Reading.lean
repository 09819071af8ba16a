import ViewModel.Proofs.Target.Denotation

/-!
Printed expressions are read as they were meant: what a dialect prints has the grammar of its
target, so every word of it belongs where the expression has it.
-/

namespace ViewModel

/-- The constants of an expression. -/
def Expr.literals : Expr → List Scalar
  | hole | member .. => []
  | literal s => [s]
  | not e | nullCheck e _ => e.literals
  | binary _ l r => l.literals ++ r.literals
  | ternary c t f => c.literals ++ t.literals ++ f.literals

theorem Expr.mem_literals_ternary {c t f : Expr} {s : Scalar} :
    s ∈ (ternary c t f).literals ↔ s ∈ c.literals ∨ s ∈ t.literals ∨ s ∈ f.literals := by
  simp [literals]

open Grammar (Reads)

/-- How the target of a dialect reads what the dialect prints. -/
structure Reading (d : Dialect) where
  grammar : Grammar
  /-- The constant that a text is a literal of. -/
  constant? : String → Option Scalar
  member : List String → List Int → Phrase
  conditional : Phrase → Phrase → Phrase → Phrase
  operator_level : ∀ op, grammar.level (d.operator op) = some (d.level op)
  operator_chains : ∀ op, grammar.chains (d.level op) = true → d.leftLevel op = d.level op + 1
  nullTest_level : ∀ negated, grammar.level (d.nullTest negated) = some d.nullTestLevel
  negation_eq : grammar.negation = d.negation
  negationLevel_eq : grammar.negationLevel = d.negationLevel
  constant?_literal : ∀ s, s.isFinite = true → constant? (d.literal s) = some s
  member_reads : ∀ path nullSafe,
    Reads grammar Dialect.closest (d.member path nullSafe) (member path nullSafe)
  conditional_reads : ∀ {k l n ps qs rs s t u}, Dialect.conditionalLevel < k →
    Reads grammar k ps s → Dialect.conditionalLevel < l → Reads grammar l qs t →
    Reads grammar n rs u →
    Reads grammar Dialect.conditionalLevel (d.conditional ps qs rs) (conditional s t u)

namespace Reading

variable {d : Dialect}

/-- The phrase that an expression is printed as. -/
def phrase (r : Reading d) : Expr → Phrase
  | .hole => .literal .null
  | .literal s => .literal s
  | .member path nullSafe => r.member path nullSafe
  | .nullCheck e negated => .joined (d.nullTest negated) (r.phrase e) (.literal .null)
  | .not e => .negated (r.phrase e)
  | .binary op left right => .joined (d.operator op) (r.phrase left) (r.phrase right)
  | .ternary c t f => r.conditional (r.phrase c) (r.phrase t) (r.phrase f)

theorem enclose_reads (least : Nat) {g : Grammar} {n : Nat} {ps : List Piece} {s : Phrase}
    (h : Reads g n ps s) (hleast : least ≤ Dialect.closest) :
    ∃ n', least ≤ n' ∧ Reads g n' (Dialect.enclose least n ps) s := by
  unfold Dialect.enclose
  split
  · exact ⟨Dialect.closest, hleast, .enclosed h⟩
  · exact ⟨n, by omega, h⟩

theorem leftLevel_bounds (r : Reading d) (op : BinaryOp) :
    d.level op ≤ d.leftLevel op ∧ d.leftLevel op ≤ d.level op + 1 ∧
      d.level op + 1 ≤ Dialect.closest := by
  obtain ⟨-, hclosest, -⟩ := r.grammar.level_bounds (r.operator_level op)
  unfold Dialect.leftLevel
  split <;> omega

/-- Operands between which an operator stands, the left one of a level that does not chain. -/
theorem joined_reads {g : Grammar} {op : String} {k n n' : Nat} {ps qs : List Piece}
    {s t : Phrase} (hop : g.level op = some k) (hn : k ≤ n) (hchains : g.chains k = true → k < n)
    (left : Reads g n ps s) (hn' : k < n') (right : Reads g n' qs t) :
    Reads g k (ps ++ .between op :: qs) (.joined op s t) := by
  have hjoin : g.join op k n s t = .joined op s t := by
    unfold Grammar.join
    split
    next h =>
      simp only [Bool.and_eq_true, beq_iff_eq] at h
      have hlt := hchains h.1
      omega
    · rfl
  exact hjoin ▸ .joined hop hn left hn' right

/-- What is printed reads as the phrase that it was printed from. -/
theorem reads (r : Reading d) {e : Expr} (hcomplete : e.isComplete = true)
    (hfinite : ∀ s ∈ e.literals, s.isFinite = true) :
    Reads r.grammar (d.levelOf e) (d.pieces e) (r.phrase e) := by
  induction e with
  | hole => cases hcomplete
  | literal s => exact .literal (hfinite s (List.mem_singleton_self s))
  | member path nullSafe => exact r.member_reads path nullSafe
  | nullCheck e negated ih =>
    obtain ⟨-, hclosest, -⟩ := r.grammar.level_bounds (r.nullTest_level negated)
    obtain ⟨n, hn, left⟩ := enclose_reads (d.nullTestLevel + 1) (ih hcomplete hfinite)
      hclosest
    have right : Reads r.grammar Dialect.closest [.literal .null] (.literal .null) :=
      .literal rfl
    show Reads r.grammar d.nullTestLevel _ _
    exact joined_reads (r.nullTest_level negated) (by omega) (fun _ => by omega) left hclosest right
  | not e ih =>
    have hclosest := r.grammar.negation_bounds.2
    rw [r.negationLevel_eq] at hclosest
    obtain ⟨n, hn, h⟩ := enclose_reads d.negationLevel (ih hcomplete hfinite)
      (by omega)
    have hread := Reads.negated (g := r.grammar) (by rw [r.negationLevel_eq]; exact hn) h
    rw [r.negation_eq, r.negationLevel_eq] at hread
    exact hread
  | binary op left right ihl ihr =>
    simp only [Expr.isComplete, Bool.and_eq_true] at hcomplete
    obtain ⟨hlow, hhigh, hclosest⟩ := r.leftLevel_bounds op
    obtain ⟨n, hn, left⟩ := enclose_reads (d.leftLevel op)
      (ihl hcomplete.1 fun s hs => hfinite s (List.mem_append_left _ hs)) (by omega)
    obtain ⟨n', hn', right⟩ := enclose_reads (d.level op + 1)
      (ihr hcomplete.2 fun s hs => hfinite s (List.mem_append_right _ hs)) hclosest
    show Reads r.grammar (d.level op) _ _
    refine joined_reads (r.operator_level op) (by omega) (fun hchains => ?_) left hn' right
    have hleft := r.operator_chains op hchains
    omega
  | ternary c t f ihc iht ihf =>
    simp only [Expr.isComplete, Bool.and_eq_true] at hcomplete
    obtain ⟨⟨hc, ht⟩, hf⟩ := hcomplete
    have hmem {s : Scalar} (h : s ∈ c.literals ∨ s ∈ t.literals ∨ s ∈ f.literals) :
        s.isFinite = true := hfinite s (Expr.mem_literals_ternary.mpr h)
    have hclosest : Dialect.conditionalLevel + 1 ≤ Dialect.closest := by decide
    obtain ⟨k, hk, first⟩ := enclose_reads (Dialect.conditionalLevel + 1)
      (ihc hc fun s hs => hmem (.inl hs)) hclosest
    obtain ⟨l, hl, second⟩ := enclose_reads (Dialect.conditionalLevel + 1)
      (iht ht fun s hs => hmem (.inr (.inl hs))) hclosest
    obtain ⟨n, -, third⟩ := enclose_reads Dialect.conditionalLevel
      (ihf hf fun s hs => hmem (.inr (.inr hs))) (by decide)
    exact r.conditional_reads hk first hl second third

end Reading

section Brace

def csharpGrammar : Grammar where
  operators := [("||", 2), ("&&", 3), ("==", 4), ("!=", 4), ("<", 5), ("<=", 5), (">", 5),
    (">=", 5)]
  chains _ := false
  negation := "!"
  negationLevel := 6
  opener := "?"
  middle := ":"
  inner := Dialect.conditionalLevel
  operator_bounds := by decide
  negation_bounds := by decide
  opener_level := by decide
  middle_level := by decide
  opener_ne_middle := by decide

def typescriptGrammar : Grammar :=
  { csharpGrammar with
    operators := ("===", 4) :: ("!==", 4) :: csharpGrammar.operators
    operator_bounds := by decide
    opener_level := by decide
    middle_level := by decide }

/-- A path of properties by their printed names, with the marks of those whose receiver may be
null. -/
def steps (name : String → String) (nullSafe : List Int) : Nat → List String → List (Bool × String)
  | _, [] => []
  | i, segment :: rest =>
      (decide ((i : Int) ∈ nullSafe), name segment) :: steps name nullSafe (i + 1) rest

theorem accesses_eq (name : String → String) (nullSafe : List Int) (i : Nat)
    (path : List String) :
    Dialect.accesses name nullSafe i path =
      (steps name nullSafe i path).map fun a => .access a.1 a.2 := by
  induction path generalizing i with
  | nil => rfl
  | cons segment rest ih => simp [Dialect.accesses, steps, ih]

theorem braceMember_reads (g : Grammar) (name : String → String) (path : List String)
    (nullSafe : List Int) :
    Reads g Dialect.closest (Dialect.braceMember name path nullSafe)
      (.path (steps name nullSafe 0 path)) := by
  rw [Dialect.braceMember, accesses_eq]
  exact .path _

def csharpReading : Reading .csharp where
  grammar := csharpGrammar
  constant? := Target.csharp.denoted?
  member path nullSafe :=
    .path (steps (fun s => String.ofList (Text.pascalCase s.toList)) nullSafe 0 path)
  conditional := .conditional
  operator_level op := by cases op <;> decide
  operator_chains op h := by cases h
  nullTest_level negated := by cases negated <;> decide
  negation_eq := rfl
  negationLevel_eq := rfl
  constant?_literal s hs := (Target.denoted?_literal .csharp s).trans (if_pos hs)
  member_reads := braceMember_reads _ _
  conditional_reads hk first hl second third := by
    have h : Reads csharpGrammar _ (_ ++ .between "?" :: (_ ++ .between ":" :: _)) _ :=
      .conditional hk first (Nat.le_of_lt hl) second third
    simpa [Dialect.csharp, Dialect.braceConditional] using h

def typescriptReading : Reading .typescript where
  grammar := typescriptGrammar
  constant? := Target.typescript.denoted?
  member path nullSafe :=
    .path (steps (fun s => String.ofList (Text.camelCase s.toList)) nullSafe 0 path)
  conditional := .conditional
  operator_level op := by cases op <;> decide
  operator_chains op h := by cases h
  nullTest_level negated := by cases negated <;> decide
  negation_eq := rfl
  negationLevel_eq := rfl
  constant?_literal s hs := (Target.denoted?_literal .typescript s).trans (if_pos hs)
  member_reads := braceMember_reads _ _
  conditional_reads hk first hl second third := by
    have h : Reads typescriptGrammar _ (_ ++ .between "?" :: (_ ++ .between ":" :: _)) _ :=
      .conditional hk first (Nat.le_of_lt hl) second third
    simpa [Dialect.typescript, Dialect.csharp, Dialect.braceConditional] using h

end Brace

section Python

def pythonGrammar : Grammar where
  operators := [("or", 2), ("and", 3), ("==", 5), ("!=", 5), ("<", 5), ("<=", 5), (">", 5),
    (">=", 5), ("is", 5), ("is not", 5)]
  chains k := k == 5
  negation := "not "
  negationLevel := 4
  opener := "if"
  middle := "else"
  inner := Dialect.conditionalLevel + 1
  operator_bounds := by decide
  negation_bounds := by decide
  opener_level := by decide
  middle_level := by decide
  opener_ne_middle := by decide

def plainPath (path : List String) : Phrase := .path (path.map fun name => (false, name))

def guardPhrase (receiver : List String) : Phrase :=
  .joined "is not" (plainPath receiver) (.literal .null)

def guardsPhrase (first : List String) (more : List (List String)) : Phrase :=
  more.foldl (fun sofar receiver => .joined "and" sofar (guardPhrase receiver))
    (guardPhrase first)

theorem plainMember_reads (path : List String) :
    Reads pythonGrammar Dialect.closest (Dialect.plainMember path) (plainPath path) := by
  have h := Reads.path (g := pythonGrammar) (path.map fun name => (false, name))
  rw [List.map_map] at h
  exact h

theorem guard_reads (receiver : List String) :
    Reads pythonGrammar 5 (Dialect.guard receiver) (guardPhrase receiver) :=
  Reading.joined_reads (by decide) (by decide) (fun _ => by decide) (plainMember_reads receiver)
    (by decide) (.literal rfl)

theorem guards_reads (first : List String) (more : List (List String)) :
    ∃ n, Dialect.conditionalLevel < n ∧
      Reads pythonGrammar n (Dialect.guards first more) (guardsPhrase first more) := by
  have more_reads {n : Nat} {ps : List Piece} {s : Phrase} (hn : 3 ≤ n)
      (h : Reads pythonGrammar n ps s) :
      ∃ n', 3 ≤ n' ∧ Reads pythonGrammar n'
        (ps ++ more.flatMap fun receiver => .between "and" :: Dialect.guard receiver)
        (more.foldl (fun sofar receiver => .joined "and" sofar (guardPhrase receiver)) s) := by
    induction more generalizing n ps s with
    | nil => exact ⟨n, hn, by simpa using h⟩
    | cons receiver more ih =>
      have hjoined : Reads pythonGrammar 3 (ps ++ .between "and" :: Dialect.guard receiver)
          (.joined "and" s (guardPhrase receiver)) :=
        Reading.joined_reads (by decide) hn (fun h => by cases h) h (by decide)
          (guard_reads receiver)
      simpa using ih (Nat.le_refl 3) hjoined
  obtain ⟨n, hn, h⟩ := more_reads (by decide) (guard_reads first)
  exact ⟨n, Nat.lt_of_lt_of_le (by decide) hn, h⟩

/-- What is guarded is a part of the path, before a segment of which the receiver may be null. -/
theorem mem_guardedPrefixes {i : Nat} {sofar path receiver : List String} {nullSafe : List Int}
    (h : receiver ∈ Dialect.guardedPrefixes nullSafe sofar i path) :
    ∃ before after, path = before ++ after ∧ receiver = sofar ++ before ∧
      ((i + before.length : Nat) : Int) ∈ nullSafe := by
  induction path generalizing sofar i with
  | nil => cases h
  | cons name rest ih =>
    have more (h : receiver ∈ Dialect.guardedPrefixes nullSafe (sofar ++ [name]) (i + 1) rest) :
        ∃ before after, name :: rest = before ++ after ∧ receiver = sofar ++ before ∧
          ((i + before.length : Nat) : Int) ∈ nullSafe := by
      obtain ⟨before, after, rfl, rfl, hmem⟩ := ih h
      refine ⟨name :: before, after, rfl, by simp, ?_⟩
      rw [List.length_cons, show i + (before.length + 1) = i + 1 + before.length by omega]
      exact hmem
    rw [Dialect.guardedPrefixes] at h
    split at h
    next hmem =>
      rcases List.mem_cons.mp h with rfl | h
      · exact ⟨[], name :: rest, rfl, by simp, by simpa using hmem⟩
      · exact more h
    · exact more h

/-- A path behind the tests that no receiver is null that may be. -/
def guardedPath (path : List String) (nullSafe : List Int) : Phrase :=
  match Dialect.guardedPrefixes nullSafe [] 0 path with
  | [] => plainPath path
  | first :: more => .conditional (plainPath path) (guardsPhrase first more) (.literal .null)

theorem pythonMember_reads (path : List String) (nullSafe : List Int) :
    Reads pythonGrammar Dialect.closest (Dialect.pythonMember path nullSafe)
      (guardedPath path nullSafe) := by
  unfold Dialect.pythonMember guardedPath
  cases Dialect.guardedPrefixes nullSafe [] 0 path with
  | nil => exact plainMember_reads path
  | cons first more =>
    obtain ⟨n, hn, hguards⟩ := guards_reads first more
    have h : Reads pythonGrammar _ (_ ++ .between "if" :: (_ ++ [.between "else", .literal .null]))
        (.conditional _ _ (.literal .null)) :=
      .conditional (by decide) (plainMember_reads path) hn hguards (.literal rfl)
    simpa using Reads.enclosed h

def pythonReading : Reading .python where
  grammar := pythonGrammar
  constant? := Target.python.denoted?
  member := guardedPath
  conditional c t f := .conditional t c f
  operator_level op := by cases op <;> decide
  operator_chains op h := by cases op <;> first | rfl | cases h
  nullTest_level negated := by cases negated <;> decide
  negation_eq := rfl
  negationLevel_eq := rfl
  constant?_literal s hs := (Target.denoted?_literal .python s).trans (if_pos hs)
  member_reads := pythonMember_reads
  conditional_reads hk first hl second third := by
    have h : Reads pythonGrammar _ (_ ++ .between "if" :: (_ ++ .between "else" :: _)) _ :=
      .conditional hl second hk first third
    simpa [Dialect.python] using h

end Python

end ViewModel
