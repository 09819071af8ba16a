import ViewModel.Accessor.Compile

/-!
Specifications of compiling. Whatever is compiled, and whether or not it succeeds, what was
compiled before stays, and what holds of all that is compiled goes on holding.
-/

namespace ViewModel.Accessor

variable {α β : Type}

/-- The outcome of compiling, and what is compiled after it. -/
def Compile.outcome (x : Compile α) (done : Progress) : Except BuildError α × Progress :=
  x.run.run done

namespace Compile

@[simp] theorem outcome_pure (a : α) (done : Progress) :
    (pure a : Compile α).outcome done = (.ok a, done) := rfl

@[simp] theorem outcome_throw (e : BuildError) (done : Progress) :
    (throw e : Compile α).outcome done = (.error e, done) := rfl

@[simp] theorem outcome_get (done : Progress) :
    (get : Compile Progress).outcome done = (.ok done, done) := rfl

@[simp] theorem outcome_modify (f : Progress → Progress) (done : Progress) :
    (modify f : Compile Unit).outcome done = (.ok (), f done) := rfl

theorem outcome_bind (x : Compile α) (f : α → Compile β) (done : Progress) :
    (x >>= f).outcome done =
      match x.outcome done with
      | (.ok a, after) => (f a).outcome after
      | (.error e, after) => (.error e, after) := by
  simp only [outcome, ExceptT.run_bind, StateT.run_bind]
  cases h : x.run.run done with
  | mk r after => cases r <;> rfl

end Compile

/-- From every progress with `inv` and `pre`, compiling only adds to the progress and keeps `inv`,
whether it succeeds or not; a result has `post`. -/
def Meets (inv pre : Progress → Prop) (x : Compile α) (post : α → Progress → Prop) : Prop :=
  ∀ done, inv done → pre done →
    inv (x.outcome done).2 ∧ done <+: (x.outcome done).2 ∧
      ∀ a, (x.outcome done).1 = .ok a → post a (x.outcome done).2

/-- What goes on holding while more is compiled. -/
def Lasting (P : Progress → Prop) : Prop := ∀ done after, done <+: after → P done → P after

namespace Lasting

variable {P Q : Progress → Prop}

theorem and (hP : Lasting P) (hQ : Lasting Q) : Lasting (fun done => P done ∧ Q done) :=
  fun done after hprefix h => ⟨hP done after hprefix h.1, hQ done after hprefix h.2⟩

end Lasting

namespace Meets

variable {inv pre frame : Progress → Prop} {x : Compile α} {f : α → Compile β}
  {mid post : α → Progress → Prop} {result : β → Progress → Prop}

theorem pure {a : α} (h : ∀ done, pre done → post a done) : Meets inv pre (pure a) post := by
  intro done hinv hpre
  refine ⟨hinv, List.prefix_rfl, fun b hb => ?_⟩
  obtain rfl := Except.ok.inj hb
  exact h done hpre

theorem throw (e : BuildError) : Meets inv pre (throw e : Compile α) post :=
  fun _ hinv _ => ⟨hinv, List.prefix_rfl, fun _ h => by simp at h⟩

theorem bind (hx : Meets inv pre x mid) (hf : ∀ a, Meets inv (mid a) (f a) result) :
    Meets inv pre (x >>= f) result := by
  intro done hinv hpre
  obtain ⟨hinv', hprefix, hmid⟩ := hx done hinv hpre
  rw [Compile.outcome_bind]
  cases h : x.outcome done with
  | mk r after =>
    rw [h] at hinv' hprefix hmid
    cases r with
    | error e => exact ⟨hinv', hprefix, fun _ hb => by simp at hb⟩
    | ok a =>
      obtain ⟨hinv'', hprefix', hresult⟩ := hf a after hinv' (hmid a rfl)
      exact ⟨hinv'', hprefix.trans hprefix', hresult⟩

theorem throw_bind (e : BuildError) :
    Meets inv pre ((MonadExcept.throw e : Compile α) >>= f) result := by
  have hthrow : Meets inv pre (MonadExcept.throw e : Compile α) fun _ _ => False := throw e
  exact .bind hthrow fun _ _ _ h => h.elim

theorem weaken (hx : Meets inv pre x mid) (h : ∀ a done, mid a done → post a done) :
    Meets inv pre x post := fun done hinv hpre =>
  let ⟨hinv', hprefix, hmid⟩ := hx done hinv hpre
  ⟨hinv', hprefix, fun a ha => h a _ (hmid a ha)⟩

theorem assuming (hx : Meets inv frame x post) (h : ∀ done, pre done → frame done) :
    Meets inv pre x post := fun done hinv hpre => hx done hinv (h done hpre)

/-- What lasts and held before holds after as well. -/
theorem keeping (hx : Meets inv (fun _ => True) x post) (hlasting : Lasting frame) :
    Meets inv frame x (fun a done => post a done ∧ frame done) :=
  fun done hinv hframe =>
    let ⟨hinv', hprefix, hpost⟩ := hx done hinv trivial
    ⟨hinv', hprefix, fun a ha => ⟨hpost a ha, hlasting _ _ hprefix hframe⟩⟩

/-- What holds of all that is compiled may be used. -/
theorem knowing (hx : Meets inv (fun done => inv done ∧ pre done) x post) :
    Meets inv pre x post := fun done hinv hpre => hx done hinv ⟨hinv, hpre⟩

theorem get : Meets inv pre (MonadState.get : Compile Progress)
    (fun seen done => seen = done ∧ pre done) := by
  intro done hinv hpre
  refine ⟨hinv, List.prefix_rfl, fun seen h => ?_⟩
  obtain rfl := Except.ok.inj h
  exact ⟨rfl, hpre⟩

theorem add {entry : Key × Compiled} {post : Unit → Progress → Prop}
    (h : ∀ done, inv done → pre done → inv (done ++ [entry]) ∧ post () (done ++ [entry])) :
    Meets inv pre (modify (· ++ [entry]) : Compile Unit) post := by
  intro done hinv hpre
  obtain ⟨hinv', hpost⟩ := h done hinv hpre
  exact ⟨hinv', List.prefix_append _ _, fun _ _ => hpost⟩

/-- Where each step establishes what lasts, all of them together establish it. -/
theorem forM {xs : List β} {f : β → Compile Unit} {goal : β → Progress → Prop}
    (hf : ∀ b ∈ xs, Meets inv (fun _ => True) (f b) (fun _ => goal b))
    (hlasting : ∀ b, Lasting (goal b)) :
    Meets inv (fun _ => True) (xs.forM f) (fun _ done => ∀ b ∈ xs, goal b done) := by
  induction xs with
  | nil => exact .pure fun done _ b hb => by simp at hb
  | cons b xs ih =>
    refine .bind (hf b List.mem_cons_self) fun _ => ?_
    have hrest := ih fun b hb => hf b (List.mem_cons_of_mem _ hb)
    refine (hrest.keeping (hlasting b)).weaken ?_
    rintro _ done ⟨hxs, hb⟩ x hx
    rcases List.mem_cons.mp hx with rfl | hx
    · exact hb
    · exact hxs x hx

end Meets

end ViewModel.Accessor
