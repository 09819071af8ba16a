import ViewModel.Proofs.Accessor.Cycles

/-!
What errors blame. An accessor that is not compiled is refused for itself, or for one that it reads;
the property that the error names fails alike where it is compiled before all others, and one that
is named for a cycle lies on it.
-/

namespace ViewModel

open Source (Declaration)

namespace Accessor

variable {α : Type} {m : Manifest} {c : ClassDecl} {p : PropertyDecl} {s after : Progress}
  {active : List Key} {fuel : Nat} {e : BuildError}

theorem outcome_error_inj {e' : BuildError}
    (h : ((.error e', s) : Except BuildError α × Progress) = (.error e, after)) :
    e' = e ∧ s = after := by
  obtain ⟨he, hafter⟩ := Prod.mk.inj h
  exact ⟨Except.error.inj he, hafter⟩

/-! What an accessor asks for, and what it refuses. -/

/-- What compiling the accessor of a property keeps to: it asks for the computed properties that it
uses, and names the property in its errors. -/
def limitsOf (m : Manifest) (c : ClassDecl) (p : PropertyDecl) : Limits where
  type := firstType m
  named := m.Uses (firstType m) accessorPaths (c.name, p.name)
  own e := e.className = c.name ∧ e.property = p.name ∧ e.cause ≠ .cycle

theorem compile_asks (hm : m.Fresh) (hc : c ∈ m.classes) (hp : p ∈ c.computedProperties)
    {a : Accessor} (ha : p.accessor = some a) :
    Asks (limitsOf m c p) m (fun _ => True) True
      fun types => (siteOf m c p.name types).compile a := by
  have hown : (limitsOf m c p).Admits c p.name := fun cause hcause => ⟨rfl, rfl, hcause⟩
  refine .compile hown hc a fun path hpath => ?_
  have hpaths : path ∈ accessorPaths p := by simpa [accessorPaths, ha] using hpath
  exact Limits.covers_of_pathNames (Manifest.class?_eq_some hm.names hc) fun key hkey =>
    ⟨c, hc, p, hp, rfl, path, hpaths, hkey⟩

/-- What keeps to limits fails with an error of its own, or because an answer fails. -/
theorem Asks.fails {l : Limits} {ok : Prop} {post : α → Prop} {x : Types → Compile α}
    {inv : Progress → Prop} {types : Types}
    (htypes : ∀ d ∈ m.classes, ∀ q ∈ d.properties, ∀ s, inv s → ∀ t after,
      (types d q).outcome s = (.ok t, after) → inv after ∧ t = l.type d q)
    (hx : Asks l m post ok x) (hok : ok) (hs : inv s)
    (h : (x types).outcome s = (.error e, after)) :
    l.own e ∨ ∃ d ∈ m.classes, ∃ q ∈ d.properties, ∃ s', inv s' ∧
      (types d q).outcome s' = (.error e, after) ∧
      (q.computed = true → l.named (d.name, q.name)) := by
  induction hx generalizing s with
  | answer a => cases h
  | refuse e' hown =>
    obtain ⟨rfl, -⟩ := outcome_error_inj h
    exact .inl hown
  | @ask ok d q next hd hq hnamed _ ih =>
    rw [Compile.outcome_bind] at h
    rcases hout : (types d q).outcome s with ⟨e' | t, s'⟩ <;> rw [hout] at h
    · obtain ⟨rfl, rfl⟩ := outcome_error_inj h
      exact .inr ⟨d, hd, q, hq, s, hs, hout, hnamed hok⟩
    · obtain ⟨hs', ht⟩ := htypes d hd q hq s hs t s' hout
      exact ih t ⟨hok, ht⟩ hs' h

theorem typeAfter_fails {ensure : ClassDecl → PropertyDecl → Compile Unit} (hp : p.Fresh)
    (h : (typeAfter ensure c p).outcome s = (.error e, after)) :
    p.computed = true ∧ (ensure c p).outcome s = (.error e, after) := by
  cases hcomputed : p.computed with
  | false =>
    rw [typeAfter_field hcomputed] at h
    cases h
  | true =>
    rw [typeAfter_computed hp hcomputed] at h
    rcases hout : (ensure c p).outcome s with ⟨e' | _, after'⟩ <;> rw [hout] at h
    · obtain ⟨rfl, rfl⟩ := outcome_error_inj h
      exact ⟨rfl, rfl⟩
    · cases h

/-- Answers are what compiling first gives, whatever waits. -/
theorem typeAfter_answers (hm : m.Fresh) (hc : c ∈ m.classes) (hp : p ∈ c.properties)
    (hs : Waiting m active s) {t : TypeRef}
    (h : (typeAfter (ensureWith ⟨m, m⟩ fuel active) c p).outcome s = (.ok t, after)) :
    Waiting m active after ∧ t = firstType m c p := by
  have hfresh := hm.properties c hc p hp
  obtain ⟨hafter, -, hknown⟩ :=
    typeAfter_meets hfresh (ensureWith_built hm fuel active hc hp) s hs trivial
  rw [h] at hafter hknown
  obtain ⟨hdone, ht⟩ := known_eq_pure.mp (hknown t rfl)
  exact ⟨hafter, ht.trans (typeOf_firstType hm hafter.built hc hp hdone)⟩

/-! Which property an error names. -/

/-- An error blames a property `q` of `d` when the property `key` is compiled. -/
structure Blames (m : Manifest) (key : Key) (e : BuildError) (d : ClassDecl) (q : PropertyDecl) :
    Prop where
  className : e.className = d.name
  property : e.property = q.name
  reached : Relation.ReflTransGen (m.Uses (firstType m) accessorPaths) key (d.name, q.name)
  alone : ((ensure ⟨m, m⟩ d q).outcome []).1 = .error e
  circular : e.cause = .cycle →
    Relation.TransGen (m.Uses (firstType m) accessorPaths) (d.name, q.name) (d.name, q.name)

/-- An error comes out again where its property is compiled before all others, unless it is the
cycle that runs into a property that waits. -/
theorem ensure_alone (hm : m.Fresh) (hroom : Room m fuel active) (hc : c ∈ m.classes)
    (hp : p ∈ c.properties) (hs : Waiting m active s)
    (h : (ensureWith ⟨m, m⟩ fuel active c p).outcome s = (.error e, after))
    (hnot : e.cause = .cycle → (e.className, e.property) ∉ active) :
    ((ensure ⟨m, m⟩ c p).outcome []).1 = .error e := by
  have hagrees := ensureWith_agrees hm (List.nil_subset active) (.start m) hroom hc hp [] s
    ⟨.nil, hs, .nil s⟩
  rw [h] at hagrees
  rcases hagrees with ⟨e', ⟨hcycle, hmem, -⟩, he⟩ | ⟨hsame, -⟩
  · obtain rfl := Except.error.inj he
    exact absurd hmem (hnot hcycle)
  · exact hsame

/-- An error blames a property, or a cycle has run into one of those that wait. -/
theorem ensureWith_blames (hm : m.Fresh) (hroom : Room m fuel active) (hc : c ∈ m.classes)
    (hp : p ∈ c.properties) (hs : Waiting m active s)
    (h : (ensureWith ⟨m, m⟩ fuel active c p).outcome s = (.error e, after)) :
    (∃ d ∈ m.classes, ∃ q ∈ d.computedProperties, Blames m (c.name, p.name) e d q) ∨
      e.cause = .cycle ∧ (e.className, e.property) ∈ active ∧
        Relation.ReflTransGen (m.Uses (firstType m) accessorPaths) (c.name, p.name)
          (e.className, e.property) := by
  induction fuel generalizing active c p s after with
  | zero => exact absurd hroom.pos (Nat.lt_irrefl 0)
  | succ fuel ih =>
    have halone := ensure_alone hm hroom hc hp hs h
    rw [ensureWith_succ, ensureStep_outcome] at h
    split at h
    · cases h
    next hdone =>
    have hcomputed := computed_of_not_isDone hdone
    have hmem : p ∈ c.computedProperties := List.mem_filter.mpr ⟨hp, hcomputed⟩
    split at h
    next hwaits =>
      obtain ⟨rfl, -⟩ := outcome_error_inj h
      exact .inr ⟨rfl, List.contains_iff_mem.mp hwaits, .refl⟩
    next hnew =>
    have hnew : (c.name, p.name) ∉ active := by simpa using hnew
    split at h
    · obtain ⟨rfl, -⟩ := outcome_error_inj h
      exact .inl ⟨c, hc, p, hmem, rfl, rfl, .refl, halone (by simp), by simp⟩
    next a ha =>
    rcases hout : ((siteOf m c p.name (typeAfter (ensureWith ⟨m, m⟩ fuel
        ((c.name, p.name) :: active)))).compile a).outcome s with ⟨e' | r, after'⟩ <;>
      rw [hout] at h
    · obtain ⟨rfl, -⟩ := outcome_error_inj h
      have hwaiting := hs.push (lookup_of_not_isDone (hm.properties c hc p hp) hdone)
      have hfails := (compile_asks hm hc hmem ha).fails
        (fun d hd q hq s hs t after hout => typeAfter_answers hm hd hq hs hout) trivial hwaiting
        hout
      rcases hfails with ⟨hclass, hproperty, hcause⟩ | ⟨d, hd, q, hq, s', hs', hout', hnamed⟩
      · exact .inl ⟨c, hc, p, hmem, hclass, hproperty, .refl, halone fun h => absurd h hcause,
          fun h => absurd h hcause⟩
      obtain ⟨hqcomputed, hensure⟩ := typeAfter_fails (hm.properties d hd q hq) hout'
      have huses := hnamed hqcomputed
      have hroom' := hroom.push (mem_keys hc hp hcomputed) hnew
      rcases ih hroom' hd hq hs' hensure with
        ⟨d', hd', q', hq', hclass, hproperty, hreached, halone', hcircular⟩ |
          ⟨hcycle, hwaits, hreached⟩
      · exact .inl ⟨d', hd', q', hq', hclass, hproperty, .head huses hreached, halone', hcircular⟩
      rcases List.mem_cons.mp hwaits with hself | hwaits
      · obtain ⟨hclass, hproperty⟩ := Prod.mk.inj hself
        -- The cycle has come back to the property itself.
        rw [hself] at hreached halone
        exact .inl ⟨c, hc, p, hmem, hclass, hproperty, .refl, halone fun _ => hnew,
          fun _ => .head' huses hreached⟩
      · exact .inr ⟨hcycle, hwaits, .head huses hreached⟩
    · cases h

/-- Where compiling a property fails, the error blames that property or one that it reaches through
properties that accessors read. Compiling the blamed property before all others fails with the same
error, and a property that is blamed for a cycle lies on one. -/
theorem ensure_blames {all : List Declaration} (hm : Resolve.manifest all = .ok m)
    (hc : c ∈ m.classes) (hp : p ∈ c.computedProperties)
    (h : (ensure ⟨m, m⟩ c p).outcome [] = (.error e, after)) :
    ∃ d ∈ m.classes, ∃ q ∈ d.computedProperties, Blames m (c.name, p.name) e d q := by
  have hnil : Waiting m [] [] := ⟨.nil, by simp⟩
  rcases ensureWith_blames (Resolve.manifest_fresh hm) (.start m) hc (List.mem_of_mem_filter hp)
    hnil h with hblames | ⟨-, hwaits, -⟩
  · exact hblames
  · cases hwaits

end Accessor

namespace Sample

open Accessor

/-- The two accessors that read each other, and one before them that leads there. -/
def led : Declaration :=
  { circle with
    members := .accessor "lead" 2 (.access (.name "self") "near") none :: circle.members }

def lead : PropertyDecl := accessor "lead" (.access (.name "self") "near")

def ledClass : ClassDecl := { circleClass with properties := lead :: circleClass.properties }

theorem led_eq : Resolve.manifest [led] = .ok ⟨[ledClass]⟩ := rfl

theorem lead_fails : (ensure ⟨⟨[ledClass]⟩, ⟨[ledClass]⟩⟩ ledClass lead).outcome [] =
    (.error ⟨"Circle", "near", .cycle⟩, []) := rfl

end Sample

/-- What leads to a cycle is not blamed for it. -/
theorem Accessor.ensure_blames_near :
    ∃ d ∈ [Sample.ledClass], ∃ q ∈ d.computedProperties,
      Blames ⟨[Sample.ledClass]⟩ ("Circle", "lead") ⟨"Circle", "near", .cycle⟩ d q :=
  ensure_blames Sample.led_eq (List.mem_singleton_self _) List.mem_cons_self
    Sample.lead_fails

end ViewModel
