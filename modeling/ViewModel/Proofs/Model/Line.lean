import Mathlib.Data.List.Nodup
import Mathlib.Data.List.Perm.Subperm
import Mathlib.Logic.Relation

/-!
Going on from one thing to the next until there is none, as from a class to its ancestors. Among
finitely many things this ends wherever it does not lead back to where it was, and then nothing is
met twice.
-/

namespace ViewModel

variable {α : Type}

/-- `Line next a as`: going on from `a` until nothing is next, one meets `as`. -/
inductive Line (next : α → Option α) : α → List α → Prop
  | last {a : α} (h : next a = none) : Line next a [a]
  | step {a b : α} {as : List α} (h : next a = some b) (rest : Line next b as) :
      Line next a (a :: as)

/-- What is next after `a` is `b`. -/
abbrev Follows (next : α → Option α) (a b : α) : Prop := next a = some b

open Relation (TransGen ReflTransGen)

/-- What is reached from where no way goes on for ever does not lead back to itself. -/
theorem not_circular_of_acc {r : α → α → Prop} {a b : α} (h : Acc (flip r) a)
    (hpath : ReflTransGen r a b) : ¬TransGen r b b := by
  induction h generalizing b with
  | intro a _ ih =>
    rcases hpath.cases_head with rfl | ⟨c, hac, hcb⟩
    · intro hcycle
      obtain ⟨c, hac, hca⟩ := TransGen.head'_iff.mp hcycle
      exact ih c hac .refl (.tail' hca hac)
    · exact ih c hac hcb

namespace Line

variable {next : α → Option α} {a b : α} {as bs xs : List α}

theorem unique (h : Line next a as) (h' : Line next a bs) : as = bs := by
  induction h generalizing bs with
  | last hnone =>
    cases h' with
    | last => rfl
    | step hsome _ => rw [hnone] at hsome; cases hsome
  | step hsome _ ih =>
    cases h' with
    | last hnone => rw [hnone] at hsome; cases hsome
    | step hsome' rest =>
      obtain rfl := Option.some.inj (hsome.symm.trans hsome')
      rw [ih rest]

theorem exists_eq_cons (h : Line next a as) : ∃ rest, as = a :: rest := by
  cases h <;> exact ⟨_, rfl⟩

/-- What is met is what one gets to, the start included. -/
theorem mem_iff (h : Line next a as) : b ∈ as ↔ ReflTransGen (Follows next) a b := by
  induction h with
  | @last a hnone =>
    rw [List.mem_singleton]
    constructor
    · rintro rfl
      exact .refl
    · intro hpath
      rcases hpath.cases_head with rfl | ⟨c, hc, -⟩
      · rfl
      · rw [Follows, hnone] at hc
        cases hc
  | @step a c as hsome _ ih =>
    rw [List.mem_cons, ih]
    constructor
    · rintro (rfl | hpath)
      · exact .refl
      · exact .head hsome hpath
    · intro hpath
      rcases hpath.cases_head with rfl | ⟨d, hd, hpath⟩
      · exact .inl rfl
      · obtain rfl := Option.some.inj (hsome.symm.trans hd)
        exact .inr hpath

theorem mem_tail_iff (h : Line next a (a :: as)) : b ∈ as ↔ TransGen (Follows next) a b := by
  rw [Relation.TransGen.head'_iff]
  cases h with
  | last hnone => simp [Follows, hnone]
  | step hsome rest => simp [Follows, hsome, rest.mem_iff]

/-- What ends does not lead back to its start. -/
theorem not_circular (h : Line next a as) : ¬TransGen (Follows next) a a := by
  induction h with
  | last hnone =>
    intro hcycle
    obtain ⟨b, hb, -⟩ := Relation.TransGen.head'_iff.mp hcycle
    rw [Follows, hnone] at hb
    cases hb
  | step hsome _ ih =>
    intro hcycle
    obtain ⟨c, hc, hback⟩ := Relation.TransGen.head'_iff.mp hcycle
    obtain rfl := Option.some.inj (hsome.symm.trans hc)
    exact ih (.tail' hback hsome)

theorem pairwise (h : Line next a as) : as.Pairwise (TransGen (Follows next)) := by
  induction h with
  | last => exact List.pairwise_singleton _ _
  | step hsome rest ih =>
    exact List.pairwise_cons.mpr ⟨fun c hc => .head' hsome (rest.mem_iff.mp hc), ih⟩

theorem nodup (h : Line next a as) : as.Nodup := by
  induction h with
  | last => exact List.nodup_singleton _
  | step hsome rest ih =>
    refine List.nodup_cons.mpr ⟨fun hmem => ?_, ih⟩
    exact (step hsome rest).not_circular (.head' hsome (rest.mem_iff.mp hmem))

theorem subset (closed : ∀ a ∈ xs, ∀ b, next a = some b → b ∈ xs) (ha : a ∈ xs)
    (h : Line next a as) : as ⊆ xs := by
  induction h with
  | last => exact List.cons_subset.mpr ⟨ha, List.nil_subset _⟩
  | step hsome _ ih => exact List.cons_subset.mpr ⟨ha, ih (closed _ ha _ hsome)⟩

theorem length_le (closed : ∀ a ∈ xs, ∀ b, next a = some b → b ∈ xs) (ha : a ∈ xs)
    (h : Line next a as) : as.length ≤ xs.length :=
  (h.nodup.subperm (h.subset closed ha)).length_le

/-- Where nothing leads back to itself, what is met on the way is always new, so the way ends
before everything is met. -/
theorem exists_of_seen (closed : ∀ a ∈ xs, ∀ b, next a = some b → b ∈ xs)
    (acyclic : ∀ a ∈ xs, ¬TransGen (Follows next) a a) {a : α} {seen : List α} (ha : a ∈ xs)
    (hseen : ∀ b ∈ seen, b ∈ xs ∧ TransGen (Follows next) b a) (hnodup : seen.Nodup) :
    ∃ as, Line next a as := by
  have hnew : a ∉ seen := fun hmem => acyclic a ha (hseen a hmem).2
  have hnodup' : (a :: seen).Nodup := List.nodup_cons.mpr ⟨hnew, hnodup⟩
  have hroom : seen.length < xs.length :=
    (hnodup'.subperm (List.cons_subset.mpr ⟨ha, fun b hb => (hseen b hb).1⟩)).length_le
  cases hnext : next a with
  | none => exact ⟨_, .last hnext⟩
  | some b =>
    have hpassed : ∀ c ∈ a :: seen, c ∈ xs ∧ TransGen (Follows next) c b := by
      intro c hc
      rcases List.mem_cons.mp hc with rfl | hc
      · exact ⟨ha, .single hnext⟩
      · exact ⟨(hseen c hc).1, (hseen c hc).2.tail hnext⟩
    obtain ⟨as, has⟩ := exists_of_seen closed acyclic (closed a ha b hnext) hpassed hnodup'
    exact ⟨a :: as, .step hnext has⟩
termination_by xs.length - seen.length

/-- Among finitely many things every way ends if and only if none leads back to its start. -/
theorem exists_iff_acyclic (closed : ∀ a ∈ xs, ∀ b, next a = some b → b ∈ xs) :
    (∀ a ∈ xs, ∃ as, Line next a as) ↔ ∀ a ∈ xs, ¬TransGen (Follows next) a a := by
  constructor
  · intro h a ha
    obtain ⟨as, has⟩ := h a ha
    exact has.not_circular
  · exact fun acyclic a ha => exists_of_seen closed acyclic ha (by simp) List.nodup_nil

end Line

end ViewModel
