import ViewModel.Proofs.Layout.Paths
import ViewModel.Proofs.Template.Compiled
import ViewModel.Proofs.Text.Markup

/-!
What the text of a template is put together from: text of its own, as it is, and values of the
data, escaped.
-/

namespace ViewModel

/-- What can be read off some data, step by step; a part that is missing is null. -/
inductive Value.PartOf (data : Value) : Value → Prop
  | whole : PartOf data data
  | segment {v : Value} (h : PartOf data v) (name : String) : PartOf data (v.segment name)
  | item {v w : Value} (h : PartOf data v) (hw : w ∈ v.items) : PartOf data w

namespace Value

variable {data v : Value}

theorem PartOf.null (data : Value) : data.PartOf .null := by
  have hmissing : data.segment "" = .null := by simp [Value.segment]
  exact hmissing ▸ PartOf.whole.segment ""

theorem PartOf.follow (h : data.PartOf v) (segments : List String) :
    data.PartOf (v.follow segments) := by
  induction segments generalizing v with
  | nil => exact h
  | cons name rest ih => exact ih (h.segment name)

end Value

namespace Template

inductive Fragment
  | own (s : String)
  | value (v : Value)

def Fragment.text : Fragment → String
  | own s => s
  | value v => Markup.escape v.display

mutual

/-- The fragments of a node in the order in which they are rendered. -/
def fragments (scopes : List Value) : Node → List Fragment
  | .text s => [.own s]
  | .slot path _ => [.value (lookup scopes path)]
  | .block helper path _ body =>
      (helper.turns (lookup scopes path)).flatMap fun item =>
        fragmentsOf (item.toList ++ scopes) body

def fragmentsOf (scopes : List Value) : List Node → List Fragment
  | [] => []
  | n :: rest => fragments scopes n ++ fragmentsOf scopes rest

end

/-- `Reached scopes nodes inner n`: rendering `nodes` comes to the node `n`, on any level of blocks
that show their body, with `inner` as its scopes. -/
inductive Reached (scopes : List Value) (nodes : List Node) : List Value → Node → Prop
  | here {n : Node} (h : n ∈ nodes) : Reached scopes nodes scopes n
  | inside {inner : List Value} {helper : Helper} {path : List String} {line : Nat}
      {body : List Node} {item : Option Value} {n : Node}
      (h : Reached scopes nodes inner (.block helper path line body))
      (hitem : item ∈ helper.turns (lookup inner path)) (hn : n ∈ body) :
      Reached scopes nodes (item.toList ++ inner) n

variable {scopes inner : List Value} {nodes : List Node} {n : Node} {f : Fragment} {data : Value}

theorem mem_fragmentsOf : f ∈ fragmentsOf scopes nodes ↔ ∃ n ∈ nodes, f ∈ fragments scopes n := by
  induction nodes with
  | nil => simp [fragmentsOf]
  | cons n rest ih => simp [fragmentsOf, ih]

/-- All that a node shows is shown by the nodes from which it is reached. -/
theorem Reached.subset (h : Reached scopes nodes inner n) :
    fragments inner n ⊆ fragmentsOf scopes nodes := by
  induction h with
  | here hn => exact fun f hf => mem_fragmentsOf.mpr ⟨_, hn, hf⟩
  | inside _ hitem hn ih =>
    intro f hf
    apply ih
    rw [fragments]
    exact List.mem_flatMap.mpr ⟨_, hitem, mem_fragmentsOf.mpr ⟨_, hn, hf⟩⟩

/-- The node that shows a fragment itself. -/
def Shows (scopes : List Value) (f : Fragment) : Node → Prop
  | .text s => f = .own s
  | .slot path _ => f = .value (lookup scopes path)
  | .block .. => False

theorem Shows.mem (h : Shows inner f n) : f ∈ fragments inner n := by
  cases n with
  | text s => exact List.mem_singleton.mpr h
  | slot path line => exact List.mem_singleton.mpr h
  | block helper path line body => exact h.elim

mutual

theorem exists_shows : ∀ (inner : List Value) (n : Node), Reached scopes nodes inner n →
    f ∈ fragments inner n → ∃ inner n, Reached scopes nodes inner n ∧ Shows inner f n
  | inner, .text s, hreached, hf => ⟨inner, _, hreached, List.mem_singleton.mp hf⟩
  | inner, .slot path line, hreached, hf => ⟨inner, _, hreached, List.mem_singleton.mp hf⟩
  | inner, .block helper path line body, hreached, hf => by
    rw [fragments] at hf
    obtain ⟨item, hitem, hf⟩ := List.mem_flatMap.mp hf
    exact exists_shows_of _ body (fun n hn => hreached.inside hitem hn) hf

theorem exists_shows_of : ∀ (inner : List Value) (body : List Node),
    (∀ n ∈ body, Reached scopes nodes inner n) → f ∈ fragmentsOf inner body →
      ∃ inner n, Reached scopes nodes inner n ∧ Shows inner f n
  | _, [], _, hf => by
    rw [fragmentsOf] at hf
    cases hf
  | inner, n :: rest, hreached, hf => by
    obtain ⟨hn, hrest⟩ := List.forall_mem_cons.mp hreached
    rw [fragmentsOf] at hf
    rcases List.mem_append.mp hf with hf | hf
    · exact exists_shows inner n hn hf
    · exact exists_shows_of inner rest hrest hf

end

/-- The fragments of some nodes are those that the nodes show that are reached from them. -/
theorem mem_fragmentsOf_iff : f ∈ fragmentsOf scopes nodes ↔
    ∃ inner n, Reached scopes nodes inner n ∧ Shows inner f n := by
  constructor
  · exact exists_shows_of scopes nodes fun n hn => .here hn
  · rintro ⟨inner, n, hreached, hshows⟩
    exact hreached.subset hshows.mem

theorem join_flatMap {α : Type} (g : α → List Fragment) (xs : List α) :
    String.join ((xs.flatMap g).map Fragment.text) =
      String.join (xs.map fun x => String.join ((g x).map Fragment.text)) := by
  induction xs with
  | nil => rfl
  | cons x xs ih => simp [ih]

mutual

theorem renderNode_eq_join (scopes : List Value) :
    ∀ n : Node, renderNode scopes n = String.join ((fragments scopes n).map Fragment.text)
  | .text s => by simp [renderNode, fragments, Fragment.text]
  | .slot path line => by simp [renderNode, fragments, Fragment.text]
  | .block helper path line body => by
    rw [renderNode_turns, fragments, join_flatMap]
    refine congrArg (fun g => String.join ((helper.turns _).map g)) (funext fun item => ?_)
    exact renderNodes_eq_join _ body

theorem renderNodes_eq_join (scopes : List Value) :
    ∀ nodes : List Node,
      renderNodes scopes nodes = String.join ((fragmentsOf scopes nodes).map Fragment.text)
  | [] => rfl
  | n :: rest => by
    rw [renderNodes, fragmentsOf, renderNode_eq_join scopes n, renderNodes_eq_join scopes rest,
      List.map_append, String.join_append]

end

theorem mem_items_of_turns {helper : Helper} {v w : Value} (h : some w ∈ helper.turns v) :
    w ∈ v.items := by
  cases helper with
  | whenTrue | whenFalse => cases hv : v.isTruthy <;> simp [Helper.turns, hv] at h
  | each => simpa [Helper.turns] using h

theorem lookupHead_partOf (h : ∀ s ∈ scopes, data.PartOf s) (name : String) :
    data.PartOf (lookupHead scopes name) := by
  induction scopes with
  | nil => exact .null data
  | cons s outer ih =>
    obtain ⟨hs, houter⟩ := List.forall_mem_cons.mp h
    rw [lookupHead]
    split
    · exact hs.segment name
    · exact ih houter

theorem lookup_partOf (h : ∀ s ∈ scopes, data.PartOf s) (path : List String) :
    data.PartOf (lookup scopes path) := by
  cases path with
  | nil => exact .null data
  | cons head rest =>
    rw [lookup]
    refine Value.PartOf.follow ?_ rest
    split
    · cases scopes with
      | nil => exact .null data
      | cons s outer => exact h s List.mem_cons_self
    · exact lookupHead_partOf h head

/-- Whatever a node sees is part of the data. -/
theorem Reached.partOf (h : Reached [data] nodes inner n) : ∀ s ∈ inner, data.PartOf s := by
  induction h with
  | here => simpa using Value.PartOf.whole
  | @inside inner _ path _ _ item _ _ hitem _ ih =>
    intro s hs
    rcases List.mem_append.mp hs with hs | hs
    · obtain rfl : item = some s := by simpa using hs
      exact (lookup_partOf ih path).item (mem_items_of_turns hitem)
    · exact ih s hs

/-- Rendering, by either engine, puts fragments together in order. They are the texts of the text
nodes that are reached, and the escaped texts of the values that the slots lead to, which are parts
of the data. Escaped text has no delimiter and no ampersand but those of entities, and escaping can
be undone. -/
theorem render_fragments (t : Template) (data : Value) :
    t.render data = String.join ((fragmentsOf [data] t.nodes).map Fragment.text) ∧
    (Program.ofTemplate t).run data =
      some (String.join ((fragmentsOf [data] t.nodes).map Fragment.text)) ∧
    (∀ f, f ∈ fragmentsOf [data] t.nodes ↔
      (∃ scopes s, Reached [data] t.nodes scopes (.text s) ∧ f = .own s) ∨
      ∃ scopes path line, Reached [data] t.nodes scopes (.slot path line) ∧
        f = .value (lookup scopes path) ∧ data.PartOf (lookup scopes path)) ∧
    ∀ s, (∀ c ∈ Markup.delimiters, c ∉ (Markup.escape s).toList) ∧
      (∀ after, '&' :: after <:+ (Markup.escape s).toList →
        ∃ e ∈ Markup.entities, e.1 <+: '&' :: after) ∧
      Markup.unescape (Markup.escape s) = s := by
  have hrender : t.render data = String.join ((fragmentsOf [data] t.nodes).map Fragment.text) :=
    renderNodes_eq_join [data] t.nodes
  refine ⟨hrender, hrender ▸ Program.run_ofTemplate t data, fun f => ?_, fun s => ⟨?_, ?_, ?_⟩⟩
  · rw [mem_fragmentsOf_iff]
    constructor
    · rintro ⟨scopes, n, hreached, hshows⟩
      cases n with
      | text s => exact .inl ⟨scopes, s, hreached, hshows⟩
      | slot path line =>
        exact .inr ⟨scopes, path, line, hreached, hshows, lookup_partOf hreached.partOf path⟩
      | block => exact hshows.elim
    · rintro (⟨scopes, s, hreached, hf⟩ | ⟨scopes, path, line, hreached, hf, -⟩)
      · exact ⟨scopes, _, hreached, hf⟩
      · exact ⟨scopes, _, hreached, hf⟩
  · exact fun c hc => Markup.not_mem_escape hc s
  · rw [Markup.escape, String.toList_ofList]
    exact fun after => Markup.ampersand_starts_entity
  · exact Markup.unescape_escape s

/-- A value with a delimiter and with what looks like an entity. -/
theorem render_fragments_entity :
    (Template.mk [.text "<b>", .slot ["name"] 1] none).render
        (.mapping [("name", .text "<&lt;")]) = "<b>&lt;&amp;lt;" ∧
      Markup.unescape "&lt;&amp;lt;" = "<&lt;" := by
  obtain ⟨hrender, -, -, hescape⟩ := render_fragments
    (.mk [.text "<b>", .slot ["name"] 1] none) (.mapping [("name", .text "<&lt;")])
  have hescaped : Markup.escape "<&lt;" = "&lt;&amp;lt;" := by decide
  obtain ⟨-, -, hundone⟩ := hescape "<&lt;"
  exact ⟨hrender.trans (by decide), hescaped ▸ hundone⟩

end Template

end ViewModel
