import PackageRepos.Text.Basic

/-!
# Lines of joined texts

Cutting a text at its newlines distributes over texts that are joined with newlines. A text whose
last line is empty has exactly its other lines as terminated lines.
-/

namespace PackageRepos
namespace Text

@[simp]
theorem unlines_nil : unlines [] = [] := rfl

@[simp]
theorem unlines_singleton (piece : Text) : unlines [piece] = piece := by
  simp [unlines, join]

theorem unlines_cons {piece : Text} {rest : List Text} (nonempty : rest ≠ []) :
    unlines (piece :: rest) = piece ++ '\n' :: unlines rest := by
  rw [unlines, join, List.intercalate_cons_of_ne_nil nonempty]
  simp [unlines, join]

theorem unlines_append {front back : List Text} (front_nonempty : front ≠ [])
    (back_nonempty : back ≠ []) :
    unlines (front ++ back) = unlines front ++ '\n' :: unlines back := by
  induction front with
  | nil => exact absurd rfl front_nonempty
  | cons piece rest ih =>
    cases rest with
    | nil => simp [unlines_cons back_nonempty]
    | cons next others =>
      have joined := ih (by simp)
      rw [List.cons_append, unlines_cons (by simp), joined, unlines_cons (List.cons_ne_nil _ _),
        List.append_assoc, List.cons_append]

theorem lines_append_newline (front back : Text) :
    lines (front ++ '\n' :: back) = lines front ++ lines back :=
  List.splitOn_append_cons_self front back

theorem lines_ne_nil (text : Text) : lines text ≠ [] := List.splitOn_ne_nil '\n' text

theorem lines_of_not_mem {text : Text} (single : '\n' ∉ text) : lines text = [text] :=
  List.splitOn_eq_singleton single

/-- Joining texts of several lines joins their lines. -/
theorem lines_unlines_flatMap {pieces : List Text} (nonempty : pieces ≠ []) :
    lines (unlines pieces) = pieces.flatMap lines := by
  induction pieces with
  | nil => exact absurd rfl nonempty
  | cons piece rest ih =>
    cases rest with
    | nil => simp
    | cons next others =>
      rw [unlines_cons (by simp), lines_append_newline, ih (by simp)]
      simp

/-- Texts that are each cut into one piece stay as they are. -/
theorem flatMap_eq_self {cut : Text → List Text} {pieces : List Text}
    (single : ∀ piece ∈ pieces, cut piece = [piece]) : pieces.flatMap cut = pieces :=
  calc
    pieces.flatMap cut = pieces.flatMap fun piece => [piece] := by
      rw [List.flatMap_def, List.flatMap_def, List.map_congr_left single]
    _ = pieces := List.flatMap_singleton' pieces

/-- Texts of one line each are their own lines. -/
theorem flatMap_lines_of_not_mem {pieces : List Text} (single : ∀ piece ∈ pieces, '\n' ∉ piece) :
    pieces.flatMap lines = pieces :=
  flatMap_eq_self fun piece member => lines_of_not_mem (single piece member)

/-- No piece of a text that is cut at some characters holds one of them, and pieces hold nothing
else than the text. -/
theorem of_mem_splitOnP {p : Char → Bool} {text piece : Text} (member : piece ∈ text.splitOnP p) :
    (∀ char ∈ piece, p char = false) ∧ piece ⊆ text := by
  induction text generalizing piece with
  | nil =>
    obtain rfl : piece = [] := by simpa using member
    simp
  | cons char rest ih =>
    rw [List.splitOnP_cons_eq_if_modifyHead] at member
    split at member
    · rcases List.mem_cons.mp member with rfl | later
      · simp
      · obtain ⟨apart, inner⟩ := ih later
        exact ⟨apart, List.subset_cons_of_subset char inner⟩
    · rename_i joins
      obtain ⟨first, others, split⟩ := List.exists_cons_of_ne_nil (List.splitOnP_ne_nil p rest)
      rw [split, List.modifyHead_cons] at member
      rcases List.mem_cons.mp member with rfl | later
      · obtain ⟨apart, inner⟩ := ih (split ▸ List.mem_cons_self)
        refine ⟨List.forall_mem_cons.mpr ⟨by simpa using joins, apart⟩, ?_⟩
        exact List.cons_subset_cons char inner
      · obtain ⟨apart, inner⟩ := ih (split ▸ List.mem_cons_of_mem first later)
        exact ⟨apart, List.subset_cons_of_subset char inner⟩

/-- No line holds a newline, and lines hold nothing else than the text. -/
theorem of_mem_lines {text line : Text} (member : line ∈ lines text) :
    '\n' ∉ line ∧ line ⊆ text := by
  obtain ⟨apart, inner⟩ := of_mem_splitOnP member
  exact ⟨fun newline => by simpa using apart _ newline, inner⟩

/-- A line with the newline that ends it. -/
def terminated (line : Text) : Text := line ++ ['\n']

/-- Lines that others follow all end with a newline. -/
theorem terminate_append (front : List Text) {back : List Text} (nonempty : back ≠ []) :
    terminatedLines.terminate (front ++ back) =
      front.map terminated ++ terminatedLines.terminate back := by
  induction front with
  | nil => rfl
  | cons piece rest ih =>
    rw [List.cons_append, terminatedLines.terminate, ih]
    · rfl
    · simp [nonempty]

theorem terminate_concat_nil (pieces : List Text) :
    terminatedLines.terminate (pieces ++ [[]]) = pieces.map terminated := by
  rw [terminate_append pieces (by simp)]
  exact List.append_nil _

/-- A text that ends with a newline has the lines before it as terminated lines. -/
theorem terminatedLines_of_lines {text : Text} {pieces : List Text}
    (split : lines text = pieces ++ [[]]) : terminatedLines text = pieces.map terminated := by
  rw [terminatedLines, split, terminate_concat_nil]

theorem of_mem_terminate {pieces : List Text} {line : Text}
    (member : line ∈ terminatedLines.terminate pieces) :
    line ∈ pieces ∨ ∃ piece ∈ pieces, line = terminated piece := by
  induction pieces with
  | nil => simp [terminatedLines.terminate] at member
  | cons piece rest ih =>
    cases rest with
    | nil =>
      rw [terminatedLines.terminate] at member
      split at member
      · simp at member
      · exact .inl member
    | cons next others =>
      rw [terminatedLines.terminate] at member
      · rcases List.mem_cons.mp member with rfl | member
        · exact .inr ⟨piece, List.mem_cons_self, rfl⟩
        · rcases ih member with found | ⟨inner, found, rfl⟩
          · exact .inl (List.mem_cons_of_mem piece found)
          · exact .inr ⟨inner, List.mem_cons_of_mem piece found, rfl⟩
      · simp

/-- A terminated line is a line of the text, with or without a newline after it. -/
theorem of_mem_terminatedLines {text line : Text} (member : line ∈ terminatedLines text) :
    line ∈ lines text ∨ ∃ piece ∈ lines text, line = terminated piece :=
  of_mem_terminate member

/-- Unless there are none, the terminated lines after the first one are those of the other lines. -/
theorem terminate_cons (piece : Text) (rest : List Text) :
    terminatedLines.terminate (piece :: rest) = [] ∨
      ∃ line, terminatedLines.terminate (piece :: rest) =
        line :: terminatedLines.terminate rest := by
  cases rest with
  | nil =>
    by_cases empty : piece = []
    · exact .inl (by simp [terminatedLines.terminate, empty])
    · exact .inr ⟨piece, by simp [terminatedLines.terminate, empty]⟩
  | cons next others => exact .inr ⟨terminated piece, rfl⟩

/-- What is computed from lines without regard to their newlines is computed from terminated lines,
but for an empty line at the end. -/
theorem map_lines_eq {β : Type} {f : Text → β} (ended : ∀ line, f (terminated line) = f line)
    (text : Text) :
    (lines text).map f = (terminatedLines text).map f ∨
      (lines text).map f = (terminatedLines text).map f ++ [f []] := by
  rw [terminatedLines]
  have nonempty := lines_ne_nil text
  generalize lines text = pieces at nonempty
  induction pieces with
  | nil => exact absurd rfl nonempty
  | cons piece rest ih =>
    cases rest with
    | nil =>
      rw [terminatedLines.terminate]
      split
      · rename_i empty
        exact .inr (by simp [List.isEmpty_iff.mp empty])
      · exact .inl rfl
    | cons next others =>
      rw [terminatedLines.terminate, ← terminated]
      · rcases ih (by simp) with same | longer
        · exact .inl (by rw [List.map_cons, same, List.map_cons, ended])
        · exact .inr (by rw [List.map_cons, longer, List.map_cons, ended, List.cons_append])
      · simp

/-- Joined pieces hold what the pieces hold, and the separator. -/
theorem mem_join_iff {char : Char} {separator : Text} (other : char ∉ separator)
    {pieces : List Text} : char ∈ join separator pieces ↔ ∃ piece ∈ pieces, char ∈ piece := by
  induction pieces with
  | nil => simp [join]
  | cons piece rest ih =>
    cases rest with
    | nil => simp [join]
    | cons next others =>
      have joined : join separator (piece :: next :: others) =
          piece ++ (separator ++ join separator (next :: others)) := by
        simp [join, List.intercalate_cons_of_ne_nil]
      rw [joined, List.mem_append, List.mem_append, ih, or_iff_right other]
      simp

theorem not_mem_join {char : Char} {separator : Text} {pieces : List Text}
    (other : char ∉ separator) (absent : ∀ piece ∈ pieces, char ∉ piece) :
    char ∉ join separator pieces := by
  rw [mem_join_iff other]
  exact fun ⟨piece, member, inner⟩ => absent piece member inner

theorem not_mem_unlines {char : Char} {pieces : List Text} (other : char ≠ '\n')
    (absent : ∀ piece ∈ pieces, char ∉ piece) : char ∉ unlines pieces :=
  not_mem_join (by simpa using other) absent

theorem not_mem_terminatedLines {char : Char} {text line : Text} (other : char ≠ '\n')
    (absent : char ∉ text) (member : line ∈ terminatedLines text) : char ∉ line := by
  rcases of_mem_terminatedLines member with found | ⟨piece, found, rfl⟩
  · exact fun inner => absent ((of_mem_lines found).2 inner)
  · intro inner
    rcases List.mem_append.mp inner with inside | newline
    · exact absent ((of_mem_lines found).2 inside)
    · exact other (List.mem_singleton.mp newline)

/-- No carriage return is left among unified newlines. -/
theorem not_mem_unifyNewlines (text : Text) : '\r' ∉ unifyNewlines text := by
  fun_induction unifyNewlines text with
  | case1 rest ih => simpa using ih
  | case2 rest _ ih => simpa using ih
  | case3 char rest _ other ih => simpa [eq_comm, ih] using other
  | case4 => simp

theorem unifyNewlines_of_not_mem {text : Text} (absent : '\r' ∉ text) :
    unifyNewlines text = text := by
  fun_induction unifyNewlines text with
  | case1 rest ih => simp at absent
  | case2 rest _ ih => simp at absent
  | case3 char rest _ other ih => rw [ih fun member => absent (List.mem_cons_of_mem char member)]
  | case4 => rfl

end Text
end PackageRepos
