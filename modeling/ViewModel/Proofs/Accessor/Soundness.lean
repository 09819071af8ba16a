import ViewModel.Proofs.Accessor.Progress
import ViewModel.Proofs.Expr.Reached

/-!
The computed properties of a manifest that is compiled never fail and keep their types.
-/

namespace ViewModel

open Source (Term Declaration)

theorem HasType.isNullable_of_null {m : Manifest} {t : TypeRef} (h : HasType m .null t) :
    t.isNullable = true := by
  cases h with
  | null | present => rfl
  | object _ hobject => cases hobject

namespace Manifest

/-- A computed property has a value of its type on every instance, and null only where its type
has null. Whatever it takes for a truth value is one, and what it compares by order are numbers. -/
theorem compile_sound {all : List Declaration} {m m' : Manifest}
    (hm : Resolve.manifest all = .ok m) (hcompile : m.compile = .ok m') {d : ClassDecl}
    {p : PropertyDecl} (hd : d ∈ m'.classes) (hp : p ∈ d.computedProperties) {self : Value}
    (hself : HasType m' self (.reference d.name)) :
    (∃ w, p.expression.evaluate self = .ok w ∧ HasType m' w p.type ∧
      (w = .null → p.type.isNullable = true)) ∧
    (∀ e ∈ p.expression.conditions, ∃ b, e.evaluate self = .ok (.bool b)) ∧
    ∀ op l r, .binary op l r ∈ p.expression.reached self → op.isOrdering = true →
      ∃ x y, l.evaluate self = .ok x ∧ r.evaluate self = .ok y ∧ x.isNumeric = true ∧
        y.isNumeric = true := by
  obtain ⟨a, t, -, helaborates, ht⟩ :=
    compiled_means (Resolve.manifest_fresh hm) hcompile hd hp
  have htyped := helaborates.wellTyped
  obtain ⟨w, hw, hwt⟩ := htyped.evaluates hself
  have hwp : HasType m' w p.type := by
    rcases ht with ht | ht <;> rw [ht]
    · exact hwt
    · exact HasType.orNull hwt
  refine ⟨⟨w, hw, hwp, ?_⟩, htyped.conditions_boolean hself, ?_⟩
  · rintro rfl
    exact hwp.isNullable_of_null
  · exact fun op l r hreached hop => htyped.reached_ordering hself hreached hop

end Manifest

namespace Sample

/-- A class whose `label` may be null. -/
def tag : Declaration where
  name := "Tag"
  base := none
  members := [.field "label" 2 (some (.constant .none))
    (some (.subscript (.name "Optional") (.name "str")))]
  source := "model.py"
  line := 1

/-- Compares a label, which is missing where there is no tag, with a title. -/
def same : Term :=
  .compare (.access (.access (.name "self") "tag") "label") .eq (.access (.name "self") "title") []

def item : Declaration where
  name := "Item"
  base := none
  members := [
    .field "tag" 5 (some (.constant .none)) (some (.subscript (.name "Optional") (.name "Tag"))),
    .field "title" 6 (some (.constant .none)) (some (.subscript (.name "Optional") (.name "str"))),
    .accessor "same" 9 same none]
  source := "model.py"
  line := 4

def label : PropertyDecl := { name := "label", type := .nullable .string }

def tagClass : ClassDecl :=
  { name := "Tag", properties := [label], source := some "model.py" }

def itemTag : PropertyDecl := { name := "tag", type := .nullable (.reference "Tag") }

def itemTitle : PropertyDecl := { name := "title", type := .nullable .string }

def itemSame (type : TypeRef) (expression : Expr) : PropertyDecl :=
  { name := "same", type := type, computed := true, expression := expression,
    accessor := some ⟨same, none⟩ }

def itemClass (type : TypeRef) (expression : Expr) : ClassDecl :=
  { name := "Item", properties := [itemTag, itemTitle, itemSame type expression],
    source := some "model.py" }

/-- The classes as a build leaves them. -/
def built : Manifest := ⟨[tagClass, itemClass .unresolved .hole]⟩

def sameExpr : Expr :=
  .binary .equals (.member ["tag", "label"] [1]) (.member ["title"] [])

/-- The classes as they are compiled. -/
def compiled : Manifest := ⟨[tagClass, itemClass .boolean sameExpr]⟩

theorem built_eq : Resolve.manifest [tag, item] = .ok built := rfl

theorem compiled_eq : built.compile = .ok compiled := rfl

/-- A tag with a label. -/
def aTag (label : Value) : Value := .object "Tag" [("label", label)]

def anItem (tag title : Value) : Value :=
  .object "Item" [("tag", tag), ("title", title), ("same", .bool true)]

theorem aTag_hasType {label : Value} (h : HasType compiled label (.nullable .string)) :
    HasType compiled (aTag label) (.reference "Tag") := by
  refine .of_members rfl rfl fun p hp => ?_
  obtain rfl := List.mem_singleton.mp hp
  exact ⟨label, rfl, h⟩

theorem anItem_hasType {tag title : Value}
    (htag : HasType compiled tag (.nullable (.reference "Tag")))
    (htitle : HasType compiled title (.nullable .string)) :
    HasType compiled (anItem tag title) (.reference "Item") := by
  have hall : compiled.allProperties (itemClass .boolean sameExpr) =
      [itemTag, itemTitle, itemSame .boolean sameExpr] := rfl
  refine .of_members rfl rfl fun p hp => ?_
  rw [hall] at hp
  simp only [List.mem_cons, List.not_mem_nil, or_false] at hp
  rcases hp with rfl | rfl | rfl
  · exact ⟨tag, rfl, htag⟩
  · exact ⟨title, rfl, htitle⟩
  · exact ⟨.bool true, rfl, .bool true⟩

end Sample

/-- An item without a tag. -/
theorem Manifest.compile_sound_untagged :
    ∃ w, Sample.sameExpr.evaluate (Sample.anItem .null (.text "a")) = .ok w ∧
      HasType Sample.compiled w .boolean := by
  have hself := Sample.anItem_hasType (.null _) (.present (.text "a"))
  obtain ⟨⟨w, hw, hwt, -⟩, -, -⟩ := Manifest.compile_sound Sample.built_eq Sample.compiled_eq
    (List.mem_cons_of_mem _ (List.mem_singleton_self _)) (List.mem_singleton_self _) hself
  exact ⟨w, hw, hwt⟩

end ViewModel
