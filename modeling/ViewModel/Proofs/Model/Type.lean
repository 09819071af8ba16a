import ViewModel.Model.Type

/-!
Types without a part that is left out and without a null on top of a null. Every type that a build
infers is such a type, and refers to classes of the build only.
-/

namespace ViewModel.TypeRef

def isProper : TypeRef → Bool
  | unresolved => false
  | primitive _ | reference _ => true
  | sequence t => t.isProper
  | nullable t => t.isProper && !t.isNullable

variable {t : TypeRef}

@[simp] theorem isProper_orNull (t : TypeRef) : t.orNull.isProper = t.isProper := by
  cases t <;> simp [orNull, isProper, isNullable]

theorem ne_unresolved (h : t.isProper = true) : t ≠ unresolved := by
  rintro rfl
  cases h

/-- The types that refer to these classes: nothing is left out, and no null stands on a null. -/
inductive Formed (classes : List String) : TypeRef → Prop
  | primitive (kind : Primitive) : Formed classes (.primitive kind)
  | reference {name : String} (h : name ∈ classes) : Formed classes (.reference name)
  | sequence {element : TypeRef} (h : Formed classes element) : Formed classes (.sequence element)
  | nullable {inner : TypeRef} (h : Formed classes inner) (hnull : inner.isNullable = false) :
      Formed classes (.nullable inner)

namespace Formed

variable {classes : List String}

theorem isProper (h : t.Formed classes) : t.isProper = true := by
  induction h with
  | primitive | reference => rfl
  | sequence _ ih => exact ih
  | nullable _ hnull ih => simp [TypeRef.isProper, ih, hnull]

theorem orNull (h : t.Formed classes) : t.orNull.Formed classes := by
  cases h with
  | nullable h hnull => exact .nullable h hnull
  | primitive kind => exact .nullable (.primitive kind) rfl
  | reference h => exact .nullable (.reference h) rfl
  | sequence h => exact .nullable (.sequence h) rfl

theorem mem (h : t.Formed classes) : ∀ name ∈ t.classes, name ∈ classes := by
  induction h with
  | primitive => exact fun _ hname => absurd hname List.not_mem_nil
  | reference h => exact fun _ hname => List.mem_singleton.mp hname ▸ h
  | sequence _ ih => exact ih
  | nullable _ _ ih => exact ih

end Formed

end ViewModel.TypeRef
