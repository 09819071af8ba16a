import ViewModel.Template.Node
import ViewModel.Text.Alphanumeric
import ViewModel.Text.Blank
import ViewModel.Text.Lines

/-!
Reading templates. A tag starts at two opening braces and ends at the next two closing ones; what
is not a tag is text.
-/

namespace ViewModel

namespace Template

/-- Splits at the first two characters `c` in a row, which are left out. -/
def splitPair (c : Char) : List Char → Option (List Char × List Char)
  | [] => none
  | [_] => none
  | a :: b :: rest =>
      if a = c ∧ b = c then some ([], rest)
      else (splitPair c (b :: rest)).map (fun (before, after) => (a :: before, after))

theorem splitPair_eq {c : Char} {cs before after : List Char}
    (h : splitPair c cs = some (before, after)) : cs = before ++ c :: c :: after := by
  fun_induction splitPair c cs generalizing before with
  | case1 => simp at h
  | case2 => simp at h
  | case3 rest => simp_all
  | case4 a b rest _ ih =>
    obtain ⟨⟨u, w⟩, hu, he⟩ := Option.map_eq_some_iff.mp h
    injection he with h₁ h₂
    subst h₁ h₂
    rw [ih hu]
    rfl

/-- The parts of a template: text, and what stands inside a tag. -/
inductive Part
  | text (cs : List Char)
  | tag (inner : List Char)
  deriving DecidableEq

/-- The next tag: the text before it, what stands inside, and the rest. -/
def splitTag (cs : List Char) : Option (List Char × List Char × List Char) := do
  let (before, rest) ← splitPair '\x7b' cs
  let (inner, after) ← splitPair '\x7d' rest
  return (before, inner, after)

theorem splitTag_eq {cs before inner after : List Char}
    (h : splitTag cs = some (before, inner, after)) :
    cs = before ++ '\x7b' :: '\x7b' :: inner ++ '\x7d' :: '\x7d' :: after := by
  simp only [splitTag, Option.bind_eq_bind, Option.bind_eq_some_iff] at h
  obtain ⟨⟨u, rest⟩, hu, ⟨v, w⟩, hv, he⟩ := h
  injection he with he
  injection he with h₁ h₂
  injection h₂ with h₂ h₃
  subst h₁ h₂ h₃
  dsimp only at hv ⊢
  rw [splitPair_eq hu, splitPair_eq hv]
  simp

/-- The parts of a template in order, with the text that is left after the last tag. -/
def parts (cs : List Char) : List Part × List Char :=
  match _h : splitTag cs with
  | none => ([], cs)
  | some (before, inner, after) =>
      let (more, rest) := parts after
      (.text before :: .tag inner :: more, rest)
termination_by cs.length
decreasing_by
  have := congrArg List.length (splitTag_eq _h)
  simp at this
  omega

def isPathStart (c : Char) : Bool := c.isAlpha || c = '_' || c = '$'

def isPathPart (c : Char) : Bool := Text.isWord c || c = '$' || c = '-'

/-- Whether these are the segments of a path. -/
def arePathSegments : List (List Char) → Bool
  | [] => false
  | first :: rest =>
      first.head?.any isPathStart && first.tail.all isPathPart
        && rest.all (fun s => !s.isEmpty && s.all isPathPart)

/-- The segments of a path; only the first may be `this`. -/
def path (raw : List Char) : Except TemplateError.Cause (List String) :=
  let segments := raw.splitOn '.'
  if !arePathSegments segments then .error (.path (String.ofList raw))
  else if segments.tail.contains "this".toList then .error (.innerThis (String.ofList raw))
  else .ok (segments.map String.ofList)

inductive Tag
  | slot (path : List String)
  | opening (helper : Helper) (path : List String)
  | closing (name : String)
  deriving DecidableEq

/-- The word and the path of an opening tag, after its mark. -/
def splitBlock (cs : List Char) : Option (List Char × List Char) :=
  let word := cs.takeWhile Text.isWord
  let afterWord := cs.dropWhile Text.isWord
  let rest := afterWord.dropWhile Text.isBlank
  if word.isEmpty || !afterWord.head?.any Text.isBlank || rest.isEmpty
      || rest.any Text.isBlank then none
  else some (word, rest)

/-- What an opening tag opens. -/
def opening (tag : List Char) : Except TemplateError.Cause Tag := do
  match splitBlock tag.tail with
  | none => .error (.blockTag (String.ofList tag))
  | some (word, raw) =>
      match Helper.ofName? (String.ofList word) with
      | none => .error (.helper (String.ofList word))
      | some h => return .opening h (← path raw)

/-- What a tag says. -/
def classify (inner : List Char) : Except TemplateError.Cause Tag :=
  if inner.head? = some '\x7b' then .error .tripleBrace
  else
    let tag := Text.trim inner
    match tag.head? with
    | none => .error .emptyTag
    | some '#' => opening tag
    | some '/' => .ok (.closing (String.ofList (Text.trim tag.tail)))
    | some '!' => .error .comment
    | some '>' => .error .partialTag
    | some '^' => .error (.mark '^')
    | some '&' => .error (.mark '&')
    | some _ =>
        if tag = "else".toList ∨ "else ".toList.isPrefixOf tag then .error .elseTag
        else Tag.slot <$> path tag

/-- A block that is open, with the nodes before it on its level. -/
structure Frame where
  helper : Helper
  path : List String
  line : Nat
  before : List Node

/-- What is read so far: the open blocks, innermost first, the nodes of the innermost one, and the
line. -/
structure Progress where
  frames : List Frame
  nodes : List Node
  line : Nat

/-- Adds text, unless it is empty. -/
def Progress.addText (p : Progress) (cs : List Char) : Progress :=
  { p with
    nodes := if cs.isEmpty then p.nodes else p.nodes ++ [.text (String.ofList cs)]
    line := p.line + Text.newlines cs }

/-- Adds what a tag on the line of `p` says. -/
def Progress.addTag (p : Progress) : Tag → Except TemplateError.Cause Progress
  | .slot path => .ok { p with nodes := p.nodes ++ [.slot path p.line] }
  | .opening helper path =>
      if maxBlockDepth ≤ p.frames.length then .error .tooDeep
      else .ok { p with frames := ⟨helper, path, p.line, p.nodes⟩ :: p.frames, nodes := [] }
  | .closing name =>
      match p.frames with
      | [] => .error (.closesNothing name)
      | f :: frames =>
          if f.helper.name = name then
            .ok { p with
              frames := frames
              nodes := f.before ++ [.block f.helper f.path f.line p.nodes] }
          else .error (.mismatch name f.helper f.line)

/-- A cause with the line it is on. -/
abbrev Located := TemplateError.Cause × Nat

def Progress.addPart (p : Progress) : Part → Except Located Progress
  | .text cs => .ok (p.addText cs)
  | .tag inner =>
      match classify inner >>= p.addTag with
      | .ok p => .ok { p with line := p.line + Text.newlines inner }
      | .error cause => .error (cause, p.line)

/-- Adds the text after the last tag. A tag may not start there, and no block may stay open. -/
def Progress.finish (p : Progress) (rest : List Char) : Except Located (List Node) :=
  match splitPair '\x7b' rest with
  | some (before, _) => .error (.unterminated, p.line + Text.newlines before)
  | none =>
      match p.frames with
      | f :: _ => .error (.unclosed f.helper, f.line)
      | [] => .ok (p.addText rest).nodes

def nodesOf (cs : List Char) : Except Located (List Node) := do
  let (ps, rest) := parts cs
  let p ← ps.foldlM Progress.addPart ⟨[], [], 1⟩
  p.finish rest

/-- Reads a template; `source` names it in messages. -/
def read (text : String) (source : Option String) : Except TemplateError Template :=
  match nodesOf text.toList with
  | .ok nodes => .ok ⟨nodes, source⟩
  | .error (cause, line) => .error ⟨cause, line, source⟩

end Template

end ViewModel
