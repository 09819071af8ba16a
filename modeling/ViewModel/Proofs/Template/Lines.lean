import ViewModel.Proofs.Text.Quotation
import ViewModel.Proofs.Value.Segment
import ViewModel.Template.Program

/-!
The lines of the text of a program. Nothing that is quoted in it breaks a line, and a line is
indented by one level for each test or loop around it.
-/

namespace ViewModel.Program

/-! Pieces of lines. -/

theorem newline_not_mem_natText (n : Nat) : '\n' ∉ (natText n).toList := fun h =>
  absurd (isDigit_of_mem_natText h) (by decide)

theorem newline_not_mem_intercalate {separator : String} {texts : List String}
    (hseparator : '\n' ∉ separator.toList) (htexts : ∀ text ∈ texts, '\n' ∉ text.toList) :
    '\n' ∉ (String.intercalate separator texts).toList := by
  induction texts with
  | nil => simp
  | cons text texts ih =>
    obtain ⟨htext, htexts⟩ := List.forall_mem_cons.mp htexts
    cases texts with
    | nil => simpa using htext
    | cons next texts =>
      rw [String.intercalate_cons_cons, String.toList_append, String.toList_append]
      simp only [List.mem_append, htext, hseparator, ih htexts, or_self, not_false_eq_true]

theorem newline_not_mem_pathText (path : List String) : '\n' ∉ (pathText path).toList := by
  have hpath : '\n' ∉ (String.intercalate ", " (path.map Text.quoted)).toList := by
    refine newline_not_mem_intercalate (by decide) fun text htext => ?_
    obtain ⟨s, -, rfl⟩ := List.mem_map.mp htext
    exact Source.newline_not_mem_quoted s
  unfold pathText
  split
  · simp [Source.newline_not_mem_quoted]
  · rw [String.toList_append, String.toList_append]
    simp only [List.mem_append, hpath, or_false]
    decide

theorem newline_not_mem_lookupText (n : Nat) (path : List String) :
    '\n' ∉ (lookupText n path).toList := by
  delta lookupText
  simp [newline_not_mem_natText, newline_not_mem_pathText]

/-! Lines. -/

/-- Some text behind the blanks of at most so many levels. -/
def IndentedAtMost (bound : Nat) (line : List Char) : Prop :=
  ∃ depth ≤ bound, ∃ content, content.head? ≠ some ' ' ∧
    line = List.replicate (4 * depth) ' ' ++ content

structure IsLine (bound : Nat) (line : String) : Prop where
  indented : IndentedAtMost bound line.toList
  unbroken : '\n' ∉ line.toList

theorem isLine_indented {bound depth : Nat} {content : String} (hdepth : depth ≤ bound)
    (hhead : content.toList.head? ≠ some ' ') (hunbroken : '\n' ∉ content.toList) :
    IsLine bound (indented depth content) where
  indented := ⟨depth, hdepth, content.toList, hhead, by simp [indented]⟩
  unbroken := by simp [indented, hunbroken]

theorem isLine_header {bound : Nat} {line : String} (hhead : line.toList.head? ≠ some ' ')
    (hunbroken : '\n' ∉ line.toList) : IsLine bound line where
  indented := ⟨0, Nat.zero_le _, line.toList, hhead, rfl⟩
  unbroken := hunbroken

theorem IndentedAtMost.mono {a b : Nat} {line : List Char} (h : IndentedAtMost a line)
    (hle : a ≤ b) : IndentedAtMost b line := by
  obtain ⟨depth, hdepth, hcontent⟩ := h
  exact ⟨depth, Nat.le_trans hdepth hle, hcontent⟩

theorem IsLine.mono {a b : Nat} {line : String} (h : IsLine a line) (hle : a ≤ b) :
    IsLine b line := ⟨h.indented.mono hle, h.unbroken⟩

mutual

/-- How deep blocks stand in a statement. -/
def Statement.levels : Statement → Nat
  | .appendText _ | .appendValue .. => 0
  | .test _ _ _ body => bodyLevels body + 1
  | .loop .. => 1

def bodyLevels : List Statement → Nat
  | [] => 0
  | s :: rest => max s.levels (bodyLevels rest)

end

theorem bodyLevels_append (a b : List Statement) :
    bodyLevels (a ++ b) = max (bodyLevels a) (bodyLevels b) := by
  induction a with
  | nil => simp [bodyLevels]
  | cons s a ih => simp [bodyLevels, ih, Nat.max_assoc]

mutual

theorem isLine_of_mem_statementLines (depth : Nat) : ∀ s : Statement,
    ∀ line ∈ statementLines depth s, IsLine (depth + s.levels) line
  | .appendText s, line, hline => by
    rw [statementLines] at hline
    obtain rfl := List.mem_singleton.mp hline
    exact isLine_indented (Nat.le_refl _) (by simp) (by simp [Source.newline_not_mem_quoted])
  | .appendValue scopes path, line, hline => by
    rw [statementLines] at hline
    obtain rfl := List.mem_singleton.mp hline
    exact isLine_indented (Nat.le_refl _) (by simp) (by simp [newline_not_mem_lookupText])
  | .test negated scopes path body, line, hline => by
    rw [statementLines] at hline
    rw [Statement.levels]
    rcases List.mem_cons.mp hline with rfl | hline
    · refine isLine_indented (Nat.le_add_right _ _) (by simp) ?_
      cases negated <;> simp [newline_not_mem_lookupText]
    · split at hline
      · obtain rfl := List.mem_singleton.mp hline
        exact isLine_indented (by omega) (by decide) (by decide)
      · exact (isLine_of_mem_bodyLines (depth + 1) body line hline).mono (by omega)
  | .loop n scopes path, line, hline => by
    simp only [statementLines, List.mem_cons, List.not_mem_nil, or_false] at hline
    rcases hline with rfl | rfl
    · exact isLine_indented (Nat.le_add_right _ _) (by simp)
        (by simp [newline_not_mem_lookupText, newline_not_mem_natText])
    · exact isLine_indented (Nat.le_refl _) (by simp) (by simp [newline_not_mem_natText])

theorem isLine_of_mem_bodyLines (depth : Nat) : ∀ body : List Statement,
    ∀ line ∈ bodyLines depth body, IsLine (depth + bodyLevels body) line
  | [], line, hline => by cases hline
  | s :: rest, line, hline => by
    rw [bodyLines] at hline
    rw [bodyLevels]
    rcases List.mem_append.mp hline with hline | hline
    · exact (isLine_of_mem_statementLines depth s line hline).mono (by omega)
    · exact (isLine_of_mem_bodyLines depth rest line hline).mono (by omega)

end

theorem isLine_of_mem_functionLines (f : Function) :
    ∀ line ∈ functionLines f, IsLine (1 + bodyLevels f.body) line := by
  intro line hline
  rw [functionLines] at hline
  rcases List.mem_cons.mp hline with rfl | hline
  · exact isLine_header (by simp) (by simp [newline_not_mem_natText])
  · split at hline
    · obtain rfl := List.mem_singleton.mp hline
      exact isLine_indented (Nat.le_add_right _ _) (by decide) (by decide)
    · exact isLine_of_mem_bodyLines 1 f.body line hline

theorem isLine_of_mem_mainLines (main : List Statement) :
    ∀ line ∈ mainLines main, IsLine (1 + bodyLevels main) line := by
  intro line hline
  have hone : 1 ≤ 1 + bodyLevels main := Nat.le_add_right _ _
  simp only [mainLines, List.mem_append, List.mem_cons, List.not_mem_nil, or_false] at hline
  rcases hline with ((rfl | rfl | rfl | rfl) | hline) | rfl
  · exact isLine_header (by decide) (by decide)
  · exact isLine_indented hone (by decide) (by decide)
  · exact isLine_indented hone (by decide) (by decide)
  · exact isLine_indented hone (by decide) (by decide)
  · exact isLine_of_mem_bodyLines 1 main line hline
  · exact isLine_indented hone (by decide) (by decide)

/-! The text between line ends. -/

/-- The lines of each function, the main one last. -/
def chunks (p : Program) : List (List String) := p.functions.map functionLines ++ [mainLines p.main]

theorem intercalate_chunks {chunks : List (List String)} (h : ∀ ls ∈ chunks, ls ≠ []) :
    String.intercalate "\n" (chunks.map fun ls => String.intercalate "\n" ls ++ "\n") =
      String.intercalate "\n" (chunks.flatMap (· ++ [""])) := by
  have hchunk : ∀ ls : List String, ls ≠ [] →
      String.intercalate "\n" (ls ++ [""]) = String.intercalate "\n" ls ++ "\n" := by
    intro ls hls
    rw [String.intercalate_append_of_ne_nil hls (List.cons_ne_nil _ _), String.intercalate_singleton,
      String.append_empty]
  induction chunks with
  | nil => rfl
  | cons ls chunks ih =>
    obtain ⟨hls, hchunks⟩ := List.forall_mem_cons.mp h
    cases chunks with
    | nil => simp [hchunk ls hls]
    | cons next chunks =>
      have hfirst : ls ++ [""] ≠ [] := by simp
      have hmore : (next :: chunks).flatMap (· ++ [""]) ≠ [] := by simp
      rw [List.flatMap_cons, String.intercalate_append_of_ne_nil hfirst hmore, ← ih hchunks,
        hchunk ls hls, List.map_cons, List.map_cons, String.intercalate_cons_cons]

section Text

variable {p : Program} {levels : Nat}

theorem ne_nil_of_mem_chunks {ls : List String} (h : ls ∈ p.chunks) : ls ≠ [] := by
  rcases List.mem_append.mp h with h | h
  · obtain ⟨f, -, rfl⟩ := List.mem_map.mp h
    exact List.cons_ne_nil _ _
  · obtain rfl := List.mem_singleton.mp h
    exact List.cons_ne_nil _ _

/-- What stands between the line ends of the text are the lines of functions, and an empty line
behind each function. -/
theorem splitOn_text (h : ∀ ls ∈ p.chunks, ∀ line ∈ ls, '\n' ∉ line.toList) :
    p.text.toList.splitOn '\n' = (p.chunks.flatMap (· ++ [""])).map String.toList := by
  have htext : p.text = String.intercalate "\n" (p.chunks.flatMap (· ++ [""])) :=
    intercalate_chunks fun _ => ne_nil_of_mem_chunks
  rw [htext, String.toList_intercalate]
  refine List.splitOn_intercalate '\n' (fun line hline => ?_) (by simp [chunks])
  obtain ⟨text, htext, rfl⟩ := List.mem_map.mp hline
  obtain ⟨ls, hls, hmem⟩ := List.mem_flatMap.mp htext
  rcases List.mem_append.mp hmem with hmem | hmem
  · exact h ls hls text hmem
  · obtain rfl := List.mem_singleton.mp hmem
    exact List.not_mem_nil

theorem isLine_of_mem_chunks (hmain : bodyLevels p.main ≤ levels)
    (hfunctions : ∀ f ∈ p.functions, bodyLevels f.body ≤ levels) {ls : List String}
    (hls : ls ∈ p.chunks) : ∀ line ∈ ls, IsLine (1 + levels) line := by
  intro line hline
  rcases List.mem_append.mp hls with hls | hls
  · obtain ⟨f, hf, rfl⟩ := List.mem_map.mp hls
    exact (isLine_of_mem_functionLines f line hline).mono
      (Nat.add_le_add_left (hfunctions f hf) 1)
  · obtain rfl := List.mem_singleton.mp hls
    exact (isLine_of_mem_mainLines p.main line hline).mono (Nat.add_le_add_left hmain 1)

/-- No line of the text is indented by more than one level more than its statements nest. -/
theorem text_indented (hmain : bodyLevels p.main ≤ levels)
    (hfunctions : ∀ f ∈ p.functions, bodyLevels f.body ≤ levels) :
    ∀ line ∈ p.text.toList.splitOn '\n', IndentedAtMost (1 + levels) line := by
  have hlines : ∀ ls ∈ p.chunks, ∀ line ∈ ls, IsLine (1 + levels) line := fun _ =>
    isLine_of_mem_chunks hmain hfunctions
  intro line hline
  rw [splitOn_text fun ls hls line hline => (hlines ls hls line hline).unbroken] at hline
  obtain ⟨line, hmem, rfl⟩ := List.mem_map.mp hline
  obtain ⟨ls, hls, hmem⟩ := List.mem_flatMap.mp hmem
  rcases List.mem_append.mp hmem with hmem | hmem
  · exact (hlines ls hls line hmem).indented
  · obtain rfl := List.mem_singleton.mp hmem
    exact ⟨0, Nat.zero_le _, [], by decide, rfl⟩

end Text

end ViewModel.Program
