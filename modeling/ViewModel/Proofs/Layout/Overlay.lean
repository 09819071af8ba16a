import ViewModel.Layout.Plan
import ViewModel.Proofs.Layout.Paths
import ViewModel.Proofs.Value.Segment

/-!
Paths compose. What a module reads from the value that it stands for is what the page reads along
the path to that value and on; and so for the element that a repetition shows.
-/

namespace ViewModel

variable {p q : String} {i : Nat}

theorem dotted_dot (p q : String) : dotted (p ++ "." ++ q) = dotted p ++ dotted q := by
  simp [dotted, List.splitOn_append_cons_self]

theorem dotted_natText (i : Nat) : dotted (natText i) = [natText i] := by
  have hdot : '.' ∉ (natText i).toList := fun h => absurd (isDigit_of_mem_natText h) (by decide)
  simp [dotted, List.splitOn_eq_singleton hdot]

theorem Value.resolve_dot {root : Value} (hp : p ≠ "") (q : String) :
    root.resolve (p ++ "." ++ q) = (root.resolve p).follow (dotted q) := by
  have hne : p ++ "." ++ q ≠ "" := by simp
  rw [Value.resolve, Value.resolve, if_neg hne, if_neg hp, dotted_dot, Value.follow_append]

namespace RenderContext

variable {c : RenderContext} {v : Value}

/-- A context shows the value that it stands for under `module` and nowhere else. -/
theorem segment_withModule {name : String} (h : name ≠ "module") :
    (c.withModule v).scope.segment name = c.scope.segment name := by
  have hfind (c : RenderContext) : Entries.find? (c.snapshot.scope ++ [("module", c.module)]) name =
      Entries.find? c.snapshot.scope name := by
    simp [Snapshot.scope, Entries.find?, h.symm]
  simp only [RenderContext.scope, Value.segment, hfind]
  rfl

theorem resolve_module (c : RenderContext) (q : String) :
    c.resolve ("module." ++ q) = c.module.follow (dotted q) :=
  Value.resolve_dot (p := "module") (by decide) q

theorem resolve_withModule {r : String} (hr : r ≠ "") (hhead : (dotted r).head? ≠ some "module") :
    (c.withModule v).resolve r = c.resolve r := by
  simp only [RenderContext.resolve, Value.resolve, if_neg hr]
  cases hsegments : dotted r with
  | nil => simp [dotted] at hsegments
  | cons head rest =>
    have hname : head ≠ "module" := fun h => hhead (by rw [hsegments, h, List.head?_cons])
    simp only [Value.follow, List.foldl_cons, segment_withModule hname]

end RenderContext

namespace Template

variable {ps qs : List String}

theorem isPathPart_of_isDigit {c : Char} (h : c.isDigit = true) : isPathPart c = true := by
  obtain ⟨hlow, hhigh⟩ := Bool.and_eq_true_iff.mp h
  have halphanumeric : Text.isAlphanumeric c = true :=
    Text.inRanges_cons_of_mem (of_decide_eq_true hlow) (of_decide_eq_true hhigh)
  simp [isPathPart, Text.isWord, halphanumeric]

theorem IsPath.element (hp : IsPath ps) (hq : IsPath ("this" :: qs)) (i : Nat) :
    IsPath (ps ++ natText i :: qs) := by
  cases ps with
  | nil => exact hp.elim
  | cons first rest =>
    refine ⟨hp.1, fun s hs => ?_⟩
    rcases List.mem_append.mp hs with hs | hs
    · exact hp.2 s hs
    rcases List.mem_cons.mp hs with rfl | hs
    · refine ⟨natText_ne_empty i, fun hthis => ?_, fun c hc => ?_⟩
      · have hdigit : 't'.isDigit = true := isDigit_of_mem_natText (i := i) (by simp [hthis])
        exact absurd hdigit (by decide)
      · exact isPathPart_of_isDigit (isDigit_of_mem_natText hc)
    · exact hq.2 s hs

/-- A path, the number of an element and a path in the element are read as one path. -/
theorem path_element (hp : path p.toList = .ok ps)
    (hq : path ("this." ++ q).toList = .ok ("this" :: qs)) (i : Nat) :
    path (p ++ "." ++ natText i ++ "." ++ q).toList = .ok (ps ++ natText i :: qs) := by
  have hthis : dotted ("this." ++ q) = dotted "this" ++ dotted q := dotted_dot "this" q
  rw [dotted_of_path hq] at hthis
  have hqs : dotted q = qs := (List.cons.inj hthis).2.symm
  have hall : dotted (p ++ "." ++ natText i ++ "." ++ q) = ps ++ natText i :: qs := by
    rw [dotted_dot, dotted_dot, dotted_natText, dotted_of_path hp, hqs, List.append_assoc,
      List.singleton_append]
  refine path_eq_ok.mpr ⟨(path_eq_ok.mp hp).1.element (path_eq_ok.mp hq).1 i, ?_⟩
  rw [pathText, ← hall, dotted, List.map_map]
  simp [Function.comp_def, List.intercalate_splitOn]

theorem lookup_append (scopes : List Value) (hps : ps ≠ []) (qs : List String) :
    lookup scopes (ps ++ qs) = (lookup scopes ps).follow qs := by
  cases ps with
  | nil => exact absurd rfl hps
  | cons head rest => rw [List.cons_append, lookup, lookup, Value.follow_append]

/-- Inside a repetition `this` is the element. -/
theorem lookup_element {scopes : List Value} {item : Value} (hps : ps ≠ [])
    (hitem : (lookup scopes ps).items[i]? = some item) (qs : List String) :
    lookup (item :: scopes) ("this" :: qs) = lookup scopes (ps ++ natText i :: qs) := by
  have hsegment : (lookup scopes ps).segment (natText i) = item := by
    cases hv : lookup scopes ps with
    | list xs =>
      rw [hv] at hitem
      rw [Value.segment_natText]
      exact congrArg (·.getD .null) hitem
    | _ =>
      rw [hv] at hitem
      cases hitem
  rw [lookup_append scopes hps, lookup, if_pos rfl, Value.follow, Value.follow, List.foldl_cons,
    hsegment]
  rfl

end Template

/-- A path below `module` leads where the path to the value of the module and the path joined lead,
for a value as a whole and for each element of a sequence; paths that do not start with `module`
do not see it. In templates `this` stands for the path to the element in the same way. -/
theorem overlay_composes :
    (∀ (c : RenderContext) p q, p ≠ "" →
      (c.withModule (c.resolve p)).resolve ("module." ++ q) = c.resolve (p ++ "." ++ q)) ∧
    (∀ (c : RenderContext) p q xs i item, p ≠ "" → c.resolve p = .list xs → xs[i]? = some item →
      (c.withModule item).resolve ("module." ++ q) =
        c.resolve (p ++ "." ++ natText i ++ "." ++ q)) ∧
    (∀ (c : RenderContext) v r, r ≠ "" → (dotted r).head? ≠ some "module" →
      (c.withModule v).resolve r = c.resolve r) ∧
    ∀ scopes p ps q qs i item, Template.path p.toList = .ok ps →
      Template.path ("this." ++ q).toList = .ok ("this" :: qs) →
      (Template.lookup scopes ps).items[i]? = some item →
      Template.path (p ++ "." ++ natText i ++ "." ++ q).toList = .ok (ps ++ natText i :: qs) ∧
      Template.lookup (item :: scopes) ("this" :: qs) =
        Template.lookup scopes (ps ++ natText i :: qs) := by
  refine ⟨fun c p q hp => ?_, fun c p q xs i item hp hlist hitem => ?_,
    fun c v r hr hhead => RenderContext.resolve_withModule hr hhead,
    fun scopes p ps q qs i item hp hq hitem => ?_⟩
  · rw [RenderContext.resolve_module, RenderContext.resolve, RenderContext.resolve,
      Value.resolve_dot hp]
    rfl
  · have helement : c.resolve (p ++ "." ++ natText i) = item := by
      rw [RenderContext.resolve, Value.resolve_dot hp, dotted_natText]
      change (c.resolve p).segment (natText i) = item
      rw [hlist, Value.segment_natText, hitem, Option.getD_some]
    have hne : p ++ "." ++ natText i ≠ "" := by simp
    rw [RenderContext.resolve_module, RenderContext.resolve, Value.resolve_dot hne]
    exact congrArg (·.follow (dotted q)) helement.symm
  · have hps : ps ≠ [] := by
      rintro rfl
      exact (Template.path_eq_ok.mp hp).1
    exact ⟨Template.path_element hp hq i, Template.lookup_element hps hitem qs⟩

/-- A state whose entry has two shelves with titles. -/
def RenderContext.titled : RenderContext :=
  ⟨{ entry := .mapping [("shelves",
    .list [.mapping [("title", .text "a")], .mapping [("title", .text "b")]])] }, .null⟩

/-- The title of the second shelf along an import of all shelves, along the element, along the path
from the page, and inside a repetition. -/
theorem overlay_composes_titled :
    RenderContext.titled.resolve "entry.shelves.1.title" = .text "b" ∧
      (RenderContext.titled.withModule (RenderContext.titled.resolve "entry.shelves")).resolve
        "module.1.title" = .text "b" ∧
      (RenderContext.titled.withModule (.mapping [("title", .text "b")])).resolve
        "module.title" = .text "b" ∧
      (RenderContext.titled.withModule (.int 1)).resolve "entry.shelves.1.title" = .text "b" ∧
      Template.lookup [.mapping [("title", .text "b")], RenderContext.titled.scope]
        ["this", "title"] = .text "b" := by
  obtain ⟨himport, heach, hother, htemplate⟩ := overlay_composes
  have htitle : RenderContext.titled.resolve "entry.shelves.1.title" = .text "b" := rfl
  refine ⟨htitle, (himport _ _ "1.title" (by decide)).trans htitle,
    (heach _ "entry.shelves" "title" _ 1 _ (by decide) rfl rfl).trans htitle,
    (hother _ _ _ (by decide) (by decide)).trans htitle, ?_⟩
  obtain ⟨-, hlookup⟩ := htemplate [RenderContext.titled.scope] "entry.shelves" ["entry", "shelves"]
    "title" ["title"] 1 _ rfl rfl rfl
  exact hlookup.trans rfl

end ViewModel
