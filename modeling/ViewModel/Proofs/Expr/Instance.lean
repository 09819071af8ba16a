import ViewModel.Model.Evaluate
import ViewModel.Proofs.Expr.WellTyped

/-!
Instances of the classes of a manifest: objects that hold a value of its declared type for every
property, their own and inherited ones.
-/

namespace ViewModel

namespace Value

/-- The named parts of an object. -/
def members? : Value → Option (List (String × Value))
  | mapping es | record _ _ es => some es
  | _ => none

/-- An object of a class that shows as its class and its members. -/
def object (className : String) (members : List (String × Value)) : Value :=
  let shown := members.map fun e => e.1 ++ "=" ++ e.2.inspect
  let text := className ++ "(" ++ String.intercalate ", " shown ++ ")"
  record text text members

/-- What an object holds under a name. -/
def held? (v : Value) (name : String) : Option Value :=
  v.members?.bind (fun es => Entries.find? es name)

theorem member_of_held? {v w : Value} {name : String} (h : v.held? name = some w) :
    v.member name = w := by
  cases v <;> simp_all [held?, members?, member]

end Value

/-- `HasType m v t`: the value `v` is of type `t`. An object is an instance of a class where it
holds a value of its type for every property that the class has, its own or inherited; a property
that has no type yet may hold anything. -/
inductive HasType (m : Manifest) : Value → TypeRef → Prop
  | text (s : String) : HasType m (.text s) .string
  | bool (b : Bool) : HasType m (.bool b) .boolean
  | int (n : Int) : HasType m (.int n) .integer
  | float (x : Double) : HasType m (.float x) .float
  | list {items : List Value} {t : TypeRef} (h : ∀ v ∈ items, HasType m v t) :
      HasType m (.list items) (.sequence t)
  | null (t : TypeRef) : HasType m .null (.nullable t)
  | present {v : Value} {t : TypeRef} (h : HasType m v t) : HasType m v (.nullable t)
  | object {v : Value} {c : String} {d : ClassDecl} (hc : m.class? c = some d)
      (hobject : v.members?.isSome = true)
      (holds : ∀ p ∈ m.allProperties d, p.type ≠ .unresolved → (v.held? p.name).isSome = true)
      (typed : ∀ p ∈ m.allProperties d, p.type ≠ .unresolved →
        ∀ w, v.held? p.name = some w → HasType m w p.type) :
      HasType m v (.reference c)

/-- A bare null has the type of null only. -/
def HasTyping (m : Manifest) (v : Value) : Typing → Prop
  | .null => v = .null
  | .known t => HasType m v t

namespace HasType

variable {m : Manifest} {v : Value} {t u : TypeRef} {c name : String}

theorem orNull (h : HasType m v t) : HasType m v t.orNull := by
  cases t with
  | nullable t => exact h
  | _ => exact .present h

theorem null_orNull (t : TypeRef) : HasType m .null t.orNull := by
  cases t <;> exact .null _

theorem not_null (h : HasType m v (.reference c)) : v ≠ .null := by
  rintro rfl
  cases h with
  | object _ hobject => simp [Value.members?] at hobject

theorem isNull_eq_false (h : HasType m v (.reference c)) : v.isNull = false :=
  Value.isNull_eq_false h.not_null

theorem nullable_cases (h : HasType m v (.nullable t)) : v = .null ∨ HasType m v t := by
  cases h with
  | null => exact .inl rfl
  | present h => exact .inr h

theorem boolean_cases (h : HasType m v .boolean) : ∃ b, v = .bool b := by
  cases h with
  | bool b => exact ⟨b, rfl⟩

/-- An object that holds a value of its type for every property is an instance. -/
theorem of_members {d : ClassDecl} (hc : m.class? c = some d) (hobject : v.members?.isSome = true)
    (h : ∀ p ∈ m.allProperties d, ∃ w, v.held? p.name = some w ∧ HasType m w p.type) :
    HasType m v (.reference c) := by
  refine .object hc hobject (fun p hp _ => ?_) (fun p hp _ w hw => ?_)
  · obtain ⟨w, hw, -⟩ := h p hp
    rw [hw, Option.isSome_some]
  · obtain ⟨u, hu, ht⟩ := h p hp
    obtain rfl := Option.some.inj (hu.symm.trans hw)
    exact ht

/-- An instance of a class holds every property of it, with a value of its type. -/
theorem member (h : HasType m v (.reference c)) (hmember : m.HasMember c name t) :
    ∃ w, v.held? name = some w ∧ HasType m w t := by
  obtain ⟨d, owner, p, hd, howner, hp, rfl, hproper⟩ := hmember
  have hresolved := TypeRef.ne_unresolved hproper
  cases h with
  | @object _ _ e hc _ holds typed =>
    obtain rfl := Option.some.inj (hd.symm.trans hc)
    have hname : p.name = name := by simpa using List.find?_some hp
    have hmem : p ∈ m.allProperties d := by
      rw [Manifest.allProperties, List.mem_flatMap]
      exact ⟨owner, List.mem_reverse.mpr (List.mem_of_find?_eq_some howner),
        List.mem_of_find?_eq_some hp⟩
    obtain ⟨w, hw⟩ := Option.isSome_iff_exists.mp (hname ▸ holds p hmem hresolved)
    exact ⟨w, hw, typed p hmem hresolved w (hname ▸ hw)⟩

theorem orNull_of_alongPath {nullSafe : List Int} (h : HasType m v (t.alongPath nullSafe)) :
    HasType m v t.orNull := by
  unfold TypeRef.alongPath at h
  split at h
  · exact h.orNull
  · exact h

/-- A path gives a value of its type, or null where a receiver is null. -/
theorem alongPath {i : Nat} {path : List String} {nullSafe : List Int}
    (hpath : PathType m i t path nullSafe u) (h : HasType m v t) :
    HasType m (v.memberPath path) (u.alongPath nullSafe) := by
  induction hpath generalizing v with
  | nil => exact h
  | strict hmember _ ih =>
    obtain ⟨w, hw, hwt⟩ := h.member hmember
    rw [Value.memberPath_cons, Value.member_of_held? hw]
    exact ih hwt
  | safe hmember _ ih =>
    rcases h.nullable_cases with rfl | h
    · rw [Value.memberPath_null]
      exact null_orNull _
    · obtain ⟨w, hw, hwt⟩ := h.member hmember
      rw [Value.memberPath_cons, Value.member_of_held? hw]
      exact orNull_of_alongPath (ih hwt)

end HasType

end ViewModel
