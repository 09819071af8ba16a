import ViewModel.Template.Render

/-!
Scopes that define nothing a template asks for are transparent. What nodes show depends on their
scopes only through the names that paths start with, and on the innermost one through `this`.
-/

namespace ViewModel.Template

mutual

/-- The names that the paths of a node start with. The body of a block counts where `enters` holds
of its helper. -/
def heads (enters : Helper → Bool) : Node → List String
  | .text _ => []
  | .slot path _ => path.head?.toList
  | .block helper path _ body =>
      path.head?.toList ++ if enters helper then headsOf enters body else []

def headsOf (enters : Helper → Bool) : List Node → List String
  | [] => []
  | n :: rest => heads enters n ++ headsOf enters rest

end

/-- The names that paths start with, on any level of blocks. -/
abbrev namesOf (nodes : List Node) : List String := headsOf (fun _ => true) nodes

/-- The names that paths start with where the innermost scope is still that of the nodes: the
bodies of repetitions do not count. -/
abbrev ownNamesOf (nodes : List Node) : List String := headsOf (· ≠ .each) nodes

/-- A scope defines none of some names; `this` is never looked for in a scope. -/
def Lacks (x : Value) (names : List String) : Prop :=
  ∀ name ∈ names, name ≠ "this" → defines x name = false

variable {scopes scopes' inner outer : List Value} {x : Value} {nodes : List Node}

/-- Two lists of scopes agree on some names, and on `this` where it is among the second ones. -/
structure SameFor (scopes scopes' : List Value) (names own : List String) : Prop where
  name : ∀ name ∈ names, name ≠ "this" → lookupHead scopes name = lookupHead scopes' name
  this : "this" ∈ own → scopes.headD .null = scopes'.headD .null

namespace SameFor

variable {names names' own own' : List String}

theorem mono (h : SameFor scopes scopes' names own) (hnames : names' ⊆ names) (hown : own' ⊆ own) :
    SameFor scopes scopes' names' own' :=
  ⟨fun name hname => h.name name (hnames hname), fun hthis => h.this (hown hthis)⟩

/-- Inside a repetition the element is the innermost scope. -/
theorem push (h : SameFor scopes scopes' names own) (item : Value) :
    SameFor (item :: scopes) (item :: scopes') names own' where
  name name hname hthis := by
    rw [lookupHead, lookupHead, h.name name hname hthis]
  this _ := rfl

theorem lookup {path : List String}
    (h : SameFor scopes scopes' path.head?.toList path.head?.toList) :
    lookup scopes path = lookup scopes' path := by
  cases path with
  | nil => rfl
  | cons head rest =>
    have hmem : head ∈ (head :: rest).head?.toList := List.mem_singleton_self head
    rw [Template.lookup, Template.lookup]
    split
    next hthis => rw [h.this (hthis ▸ hmem)]
    next hthis => rw [h.name head hmem hthis]

end SameFor

mutual

theorem renderNode_congr {scopes scopes' : List Value} : ∀ n : Node,
    SameFor scopes scopes' (heads (fun _ => true) n) (heads (· ≠ .each) n) →
      renderNode scopes n = renderNode scopes' n
  | .text s, _ => rfl
  | .slot path line, h => by
    rw [renderNode, renderNode, h.lookup]
  | .block helper path line body, h => by
    have hpath : SameFor scopes scopes' path.head?.toList path.head?.toList :=
      h.mono (List.subset_append_left _ _) (List.subset_append_left _ _)
    cases helper with
    | whenTrue =>
      have hbody := h.mono (List.subset_append_right _ _) (List.subset_append_right _ _)
      rw [renderNode, renderNode, hpath.lookup, renderNodes_congr body hbody]
    | whenFalse =>
      have hbody := h.mono (List.subset_append_right _ _) (List.subset_append_right _ _)
      rw [renderNode, renderNode, hpath.lookup, renderNodes_congr body hbody]
    | each =>
      have hbody (item : Value) :
          renderNodes (item :: scopes) body = renderNodes (item :: scopes') body :=
        renderNodes_congr body
          ((h.mono (List.subset_append_right _ _) (List.Subset.refl _)).push item)
      simp only [renderNode, hpath.lookup, hbody]

theorem renderNodes_congr {scopes scopes' : List Value} : ∀ nodes : List Node,
    SameFor scopes scopes' (namesOf nodes) (ownNamesOf nodes) →
      renderNodes scopes nodes = renderNodes scopes' nodes
  | [], _ => rfl
  | n :: rest, h => by
    rw [renderNodes, renderNodes,
      renderNode_congr n (h.mono (List.subset_append_left _ _) (List.subset_append_left _ _)),
      renderNodes_congr rest
        (h.mono (List.subset_append_right _ _) (List.subset_append_right _ _))]

end

/-- The search for a name passes by a scope that does not define it. -/
theorem lookupHead_insert {name : String} (h : defines x name = false) (inner : List Value) :
    lookupHead (inner ++ x :: outer) name = lookupHead (inner ++ outer) name := by
  induction inner with
  | nil => simp [lookupHead, h]
  | cons s inner ih => rw [List.cons_append, List.cons_append, lookupHead, lookupHead, ih]

theorem SameFor.insert (hx : Lacks x (namesOf nodes))
    (hthis : inner ≠ [] ∨ "this" ∉ ownNamesOf nodes) :
    SameFor (inner ++ x :: outer) (inner ++ outer) (namesOf nodes) (ownNamesOf nodes) where
  name name hname hne := lookupHead_insert (hx name hname hne) inner
  this hmem := by
    cases inner with
    | nil => exact absurd hmem (hthis.resolve_left (· rfl))
    | cons s inner => rfl

/-- A scope that defines none of the names that nodes ask for can be put in or taken out anywhere
but in front, and also in front where no path outside the bodies of repetitions starts with `this`.
So a repetition over elements that define none of them shows its body as often as there are
elements, each time as it shows outside. -/
theorem render_transparent :
    (∀ nodes inner outer x, Lacks x (namesOf nodes) → inner ≠ [] ∨ "this" ∉ ownNamesOf nodes →
      renderNodes (inner ++ x :: outer) nodes = renderNodes (inner ++ outer) nodes) ∧
    ∀ scopes path line body, (∀ item ∈ (lookup scopes path).items, Lacks item (namesOf body)) →
      "this" ∉ ownNamesOf body →
      renderNode scopes (.block .each path line body) =
        String.join (List.replicate (lookup scopes path).items.length
          (renderNodes scopes body)) := by
  have hinsert : ∀ nodes inner outer x, Lacks x (namesOf nodes) →
      inner ≠ [] ∨ "this" ∉ ownNamesOf nodes →
      renderNodes (inner ++ x :: outer) nodes = renderNodes (inner ++ outer) nodes :=
    fun nodes inner outer x hx hthis => renderNodes_congr nodes (.insert hx hthis)
  refine ⟨hinsert, fun scopes path line body hitems hthis => ?_⟩
  have hbody : ∀ item ∈ (lookup scopes path).items,
      renderNodes (item :: scopes) body = renderNodes scopes body :=
    fun item hitem => hinsert body [] scopes item (hitems item hitem) (.inr hthis)
  rw [renderNode, List.map_congr_left hbody, List.map_const']

/-- A scope that has null under a name that is not asked for, between the element and the page;
and two elements that leave the title of the page visible. -/
theorem render_transparent_titles :
    renderNodes [.text "e", .mapping [("a", .null)], .mapping [("title", .text "t")]]
        [.slot ["this"] 1, .slot ["title"] 1] =
      renderNodes [.text "e", .mapping [("title", .text "t")]]
        [.slot ["this"] 1, .slot ["title"] 1] ∧
    renderNode [.mapping [("title", .text "t"), ("rows", .list [.int 1, .mapping [("a", .null)]])]]
      (.block .each ["rows"] 1 [.slot ["title"] 1]) = "tt" := by
  obtain ⟨hinsert, heach⟩ := render_transparent
  constructor
  · refine hinsert _ [.text "e"] [.mapping [("title", .text "t")]] (.mapping [("a", .null)])
      (fun name hname hthis => ?_) (.inl (List.cons_ne_nil _ _))
    obtain rfl : name = "title" := by simpa [headsOf, heads, hthis] using hname
    rfl
  · refine (heach _ ["rows"] 1 [.slot ["title"] 1] ?_ (by decide)).trans (by decide)
    intro item hitem name hname _
    obtain rfl : name = "title" := by simpa [headsOf, heads] using hname
    have hrows : item = .int 1 ∨ item = .mapping [("a", .null)] := by
      simpa [lookup, lookupHead, defines, Value.segment, Value.follow, Entries.find?, Value.items]
        using hitem
    rcases hrows with rfl | rfl
    · rfl
    · rfl

end ViewModel.Template
