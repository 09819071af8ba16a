import Mathlib.Data.List.Nodup
import ViewModel.Model.Manifest
import ViewModel.Proofs.Model.Line

/-!
Which classes fit together. What decides it are names only: those of the classes, of the classes
that they extend, and of their members. Where they fit, every class has a line of ancestors that
ends, and on that line every member is found by its name.
-/

namespace ViewModel

open Relation (TransGen)

/-- The names that a class brings: its own, that of the class it extends, those of its members. -/
structure Outline where
  name : String
  base : Option String
  members : List String
  deriving DecidableEq

namespace Outline

/-- Classes have distinct names, and every class that is extended is one of them. -/
structure Linked (os : List Outline) : Prop where
  names : (os.map Outline.name).Nodup
  bases : ∀ o ∈ os, ∀ base, o.base = some base → base ∈ os.map Outline.name

/-- A class of the name `a` extends `b`. -/
def Extends (os : List Outline) (a b : String) : Prop := ∃ o ∈ os, o.name = a ∧ o.base = some b

/-- Extending never goes in a circle, and the members of a class have names that are distinct from
each other and from those of all ancestors. -/
structure Coherent (os : List Outline) : Prop where
  acyclic : ∀ a, ¬TransGen (Extends os) a a
  members : ∀ o ∈ os, o.members.Nodup
  inherited : ∀ o ∈ os, ∀ e ∈ os, TransGen (Extends os) o.name e.name →
    o.members.Disjoint e.members

variable {α : Type} {outline : α → Outline} {xs : List α} {a b : α}

/-- The class that a class extends, where each of `xs` outlines a class. -/
def base? (outline : α → Outline) (xs : List α) (a : α) : Option α :=
  (outline a).base.bind fun name => xs.find? fun x => (outline x).name == name

theorem eq_of_name (h : Linked (xs.map outline)) (ha : a ∈ xs) (hb : b ∈ xs)
    (hname : (outline a).name = (outline b).name) : a = b := by
  have hnodup := h.names
  rw [List.map_map] at hnodup
  exact List.inj_on_of_nodup_map hnodup ha hb hname

theorem base?_eq_some (h : Linked (xs.map outline)) :
    base? outline xs a = some b ↔ b ∈ xs ∧ (outline a).base = some (outline b).name := by
  rw [base?, Option.bind_eq_some_iff]
  constructor
  · rintro ⟨name, hbase, hfind⟩
    have hname : (outline b).name = name := by simpa using List.find?_some hfind
    exact ⟨List.mem_of_find?_eq_some hfind, hname ▸ hbase⟩
  · rintro ⟨hb, hbase⟩
    refine ⟨_, hbase, ?_⟩
    have hsome : (xs.find? fun x => (outline x).name == (outline b).name).isSome = true :=
      List.find?_isSome.mpr ⟨b, hb, by simp⟩
    obtain ⟨c, hc⟩ := Option.isSome_iff_exists.mp hsome
    have hname : (outline c).name = (outline b).name := by simpa using List.find?_some hc
    rw [hc, eq_of_name h (List.mem_of_find?_eq_some hc) hb hname]

theorem base?_closed (h : Linked (xs.map outline)) :
    ∀ a ∈ xs, ∀ b, base? outline xs a = some b → b ∈ xs :=
  fun _ _ _ hb => ((base?_eq_some h).mp hb).1

/-! Where classes stand does not matter. -/

theorem Linked.perm {os os' : List Outline} (h : os.Perm os') (hos : Linked os) :
    Linked os' := by
  have hnames := h.map Outline.name
  refine ⟨hnames.nodup_iff.mp hos.names, fun o ho base hbase => ?_⟩
  exact hnames.mem_iff.mp (hos.bases o (h.mem_iff.mpr ho) base hbase)

theorem base?_perm {ys : List α} (h : xs.Perm ys) (hlinked : Linked (xs.map outline)) :
    base? outline xs = base? outline ys := by
  funext a
  refine Option.ext fun b => ?_
  rw [base?_eq_some hlinked, base?_eq_some (hlinked.perm (h.map outline)), h.mem_iff]

/-- What a class is led to by the classes it extends has the name that it is led to by names. -/
theorem transGen_extends (h : Linked (xs.map outline)) (ha : a ∈ xs)
    (hpath : TransGen (Follows (base? outline xs)) a b) :
    b ∈ xs ∧ TransGen (Extends (xs.map outline)) (outline a).name (outline b).name := by
  have step {a b : α} (ha : a ∈ xs) (hab : Follows (base? outline xs) a b) :
      b ∈ xs ∧ Extends (xs.map outline) (outline a).name (outline b).name := by
    obtain ⟨hb, hbase⟩ := (base?_eq_some h).mp hab
    exact ⟨hb, _, List.mem_map_of_mem ha, rfl, hbase⟩
  induction hpath with
  | single hab =>
    obtain ⟨hb, hextends⟩ := step ha hab
    exact ⟨hb, .single hextends⟩
  | tail _ hbc ih =>
    obtain ⟨hc, hextends⟩ := step ih.1 hbc
    exact ⟨hc, ih.2.tail hextends⟩

theorem transGen_follows (h : Linked (xs.map outline)) (ha : a ∈ xs) {name : String}
    (hpath : TransGen (Extends (xs.map outline)) (outline a).name name) :
    ∃ b ∈ xs, (outline b).name = name ∧ TransGen (Follows (base? outline xs)) a b := by
  have step {a : α} {name : String} (ha : a ∈ xs)
      (hextends : Extends (xs.map outline) (outline a).name name) :
      ∃ b ∈ xs, (outline b).name = name ∧ Follows (base? outline xs) a b := by
    obtain ⟨o, ho, hname, hbase⟩ := hextends
    obtain ⟨a', ha', rfl⟩ := List.mem_map.mp ho
    obtain rfl := eq_of_name h ha' ha hname
    obtain ⟨o, ho, rfl⟩ := List.mem_map.mp (h.bases _ ho name hbase)
    obtain ⟨b, hb, rfl⟩ := List.mem_map.mp ho
    exact ⟨b, hb, rfl, (base?_eq_some h).mpr ⟨hb, hbase⟩⟩
  induction hpath with
  | single hextends =>
    obtain ⟨b, hb, hname, hab⟩ := step ha hextends
    exact ⟨b, hb, hname, .single hab⟩
  | tail _ hextends ih =>
    obtain ⟨b, hb, rfl, hpath⟩ := ih
    obtain ⟨c, hc, hname, hbc⟩ := step hb hextends
    exact ⟨c, hc, hname, hpath.tail hbc⟩

theorem lines_iff_acyclic (h : Linked (xs.map outline)) :
    (∀ a ∈ xs, ∃ as, Line (base? outline xs) a as) ↔
      ∀ name, ¬TransGen (Extends (xs.map outline)) name name := by
  rw [Line.exists_iff_acyclic (base?_closed h)]
  constructor
  · intro acyclic name hcycle
    obtain ⟨_, ⟨o, ho, rfl, -⟩, -⟩ := Relation.TransGen.head'_iff.mp hcycle
    obtain ⟨a, ha, rfl⟩ := List.mem_map.mp ho
    obtain ⟨b, hb, hname, hpath⟩ := transGen_follows h ha hcycle
    obtain rfl := eq_of_name h hb ha hname
    exact acyclic b hb hpath
  · exact fun acyclic a ha hcycle => acyclic _ (transGen_extends h ha hcycle).2

/-- The names of all members along a line of classes. -/
abbrev membersAlong (outline : α → Outline) (as : List α) : List String :=
  as.flatMap fun x => (outline x).members

/-- Classes fit together if and only if every class has a line of ancestors that ends, along which
no two members have one name. -/
theorem coherent_iff (h : Linked (xs.map outline)) :
    Coherent (xs.map outline) ↔
      ∀ a ∈ xs, ∃ as, Line (base? outline xs) a as ∧ (membersAlong outline as).Nodup := by
  constructor
  · intro hcoherent a ha
    obtain ⟨as, hline⟩ := (lines_iff_acyclic h).mpr hcoherent.acyclic a ha
    have hsubset := hline.subset (base?_closed h) ha
    refine ⟨as, hline, List.nodup_flatMap.mpr ⟨fun b hb => ?_, ?_⟩⟩
    · exact hcoherent.members _ (List.mem_map_of_mem (hsubset hb))
    · refine hline.pairwise.imp_of_mem fun {b c} hb hc hpath => ?_
      exact hcoherent.inherited _ (List.mem_map_of_mem (hsubset hb)) _
        (List.mem_map_of_mem (hsubset hc)) (transGen_extends h (hsubset hb) hpath).2
  · intro hlines
    refine ⟨(lines_iff_acyclic h).mp fun a ha => ?_, fun o ho => ?_, fun o ho e he hpath => ?_⟩
    · obtain ⟨as, hline, -⟩ := hlines a ha
      exact ⟨as, hline⟩
    · obtain ⟨a, ha, rfl⟩ := List.mem_map.mp ho
      obtain ⟨as, hline, hnodup⟩ := hlines a ha
      exact (List.nodup_flatMap.mp hnodup).1 a (hline.mem_iff.mpr .refl)
    · obtain ⟨a, ha, rfl⟩ := List.mem_map.mp ho
      obtain ⟨b, hb, rfl⟩ := List.mem_map.mp he
      obtain ⟨as, hline, hnodup⟩ := hlines a ha
      obtain ⟨c, hc, hname, hac⟩ := transGen_follows h ha hpath
      obtain rfl := eq_of_name h hc hb hname
      obtain ⟨rest, rfl⟩ := hline.exists_eq_cons
      exact (List.pairwise_cons.mp (List.nodup_flatMap.mp hnodup).2).1 c
        (hline.mem_tail_iff.mpr hac)

end Outline

end ViewModel
