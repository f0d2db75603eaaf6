import PackageRepos.Folding
import PackageRepos.Proofs.Text.Lines
import PackageRepos.Proofs.Text.Trimmed

/-!
# What folding leaves

Folding leaves no tab, adds no character but spaces and semicolons, and does nothing to a text
without tabs whose lines do not start with a space. Where lines are indented with spaces and tabs
only, it leaves no indented line but the first.
-/

namespace PackageRepos
namespace Folding

open Text

theorem not_mem_untabbed {char : Char} {line : Text} (absent : char ∉ line ∨ char = '\t')
    (other : char ≠ ' ') : char ∉ untabbed line := by
  intro member
  obtain ⟨before, before_member, replaced⟩ := List.mem_map.mp member
  split at replaced
  · exact other replaced.symm
  · rename_i untouched
    rcases absent with missing | tab
    · exact missing (replaced ▸ before_member)
    · exact untouched (replaced.trans tab)

theorem untabbed_of_not_mem {line : Text} (absent : '\t' ∉ line) : untabbed line = line := by
  rw [untabbed]
  refine (List.map_congr_left fun char member => ?_).trans (List.map_id line)
  have other : char ≠ '\t' := fun same => absent (same ▸ member)
  simp [other]

theorem not_mem_extend {char : Char} {previous line : Text} (other : char ≠ ';')
    (previous_absent : char ∉ previous) (absent : char ∉ line) : char ∉ extend previous line := by
  have stripped : char ∉ stripLeft line := fun member => absent (List.dropWhile_subset _ member)
  unfold extend
  split <;> simp [previous_absent, stripped, other]

/-- What the line before has and all lines that start anew have, and no line loses when another one
is added to it, all folded lines have. -/
theorem forall_mem_foldOnto {P : Text → Prop} {previous : Text} {rest : List Text}
    (first : P previous) (starts : ∀ line ∈ rest, isContinuation line = false → P line)
    (grows : ∀ line ∈ rest, ∀ before, P before → P (extend before line)) :
    ∀ line ∈ foldOnto previous rest, P line := by
  induction rest generalizing previous with
  | nil => simpa using first
  | cons next others ih =>
    obtain ⟨next_starts, later_starts⟩ := List.forall_mem_cons.mp starts
    obtain ⟨next_grows, later_grows⟩ := List.forall_mem_cons.mp grows
    by_cases continues : isContinuation next = true
    · rw [foldOnto_cons_of_continuation others continues]
      exact ih (next_grows previous first) later_starts later_grows
    · rw [Bool.not_eq_true] at continues
      rw [foldOnto_cons_of_start others continues, List.forall_mem_cons]
      exact ⟨first, ih (next_starts continues) later_starts later_grows⟩

/-- For the lines after the first one it does not matter what the line before has. -/
theorem forall_mem_tail_foldOnto {P : Text → Prop} (previous : Text) {rest : List Text}
    (starts : ∀ line ∈ rest, isContinuation line = false → P line)
    (grows : ∀ line ∈ rest, ∀ before, P before → P (extend before line)) :
    ∀ line ∈ (foldOnto previous rest).tail, P line := by
  induction rest generalizing previous with
  | nil => simp
  | cons next others ih =>
    obtain ⟨next_starts, later_starts⟩ := List.forall_mem_cons.mp starts
    have later_grows := (List.forall_mem_cons.mp grows).2
    by_cases continues : isContinuation next = true
    · rw [foldOnto_cons_of_continuation others continues]
      exact ih _ later_starts later_grows
    · rw [Bool.not_eq_true] at continues
      rw [foldOnto_cons_of_start others continues, List.tail_cons]
      exact forall_mem_foldOnto (next_starts continues) later_starts later_grows

theorem not_mem_of_mem_foldOnto {char : Char} (other : char ≠ ';') {previous : Text}
    {rest : List Text} (previous_absent : char ∉ previous) (absent : ∀ line ∈ rest, char ∉ line) :
    ∀ line ∈ foldOnto previous rest, char ∉ line :=
  forall_mem_foldOnto previous_absent (fun line member _ => absent line member)
    fun line member _ before_absent => not_mem_extend other before_absent (absent line member)

theorem not_mem_of_mem_foldLines {char : Char} (other : char ≠ ';') {pieces : List Text}
    (absent : ∀ line ∈ pieces, char ∉ line) : ∀ line ∈ foldLines pieces, char ∉ line := by
  cases pieces with
  | nil => simp [foldLines]
  | cons first rest =>
    exact not_mem_of_mem_foldOnto other (absent first List.mem_cons_self)
      fun line member => absent line (List.mem_cons_of_mem first member)

theorem not_mem_of_mem_map_untabbed {char : Char} {text : Text} (absent : char ∉ text ∨ char = '\t')
    (other : char ≠ ' ') : ∀ line ∈ (lines text).map untabbed, char ∉ line := by
  intro line member
  obtain ⟨before, before_member, rfl⟩ := List.mem_map.mp member
  refine not_mem_untabbed (absent.imp_left fun missing inner => ?_) other
  exact missing ((of_mem_lines before_member).2 inner)

/-- Folding adds spaces, semicolons and newlines at most, and replaces every tab. -/
theorem not_mem_fold {char : Char} {text : Text} (absent : char ∉ text ∨ char = '\t')
    (space : char ≠ ' ') (semicolon : char ≠ ';') (newline : char ≠ '\n') : char ∉ fold text :=
  not_mem_unlines newline
    (not_mem_of_mem_foldLines semicolon (not_mem_of_mem_map_untabbed absent space))

theorem foldOnto_eq_cons {previous : Text} {rest : List Text}
    (starts : ∀ line ∈ rest, isContinuation line = false) :
    foldOnto previous rest = previous :: rest := by
  induction rest generalizing previous with
  | nil => rfl
  | cons next others ih =>
    rw [foldOnto_cons_of_start others (starts next List.mem_cons_self),
      ih fun line member => starts line (List.mem_cons_of_mem next member)]

/-- A text without tabs in which no line continues another one is left alone. -/
theorem fold_eq_self {text : Text} (untabbed_text : '\t' ∉ text)
    (starts : ∀ line ∈ (lines text).tail, isContinuation line = false) : fold text = text := by
  have untouched : (lines text).map untabbed = lines text := by
    refine (List.map_congr_left fun line member => ?_).trans (List.map_id _)
    exact untabbed_of_not_mem fun inner => untabbed_text ((of_mem_lines member).2 inner)
  obtain ⟨first, rest, split⟩ := List.exists_cons_of_ne_nil (lines_ne_nil text)
  rw [split, List.tail_cons] at starts
  rw [fold, untouched, split, foldLines, foldOnto_eq_cons starts, ← split, unlines_lines]

/-! ## Lines of a folded text -/

theorem foldOnto_ne_nil (previous : Text) (rest : List Text) : foldOnto previous rest ≠ [] := by
  induction rest generalizing previous with
  | nil => simp
  | cons next others ih =>
    rw [foldOnto]
    split
    · exact ih _
    · simp

/-- The lines of a folded text are those that folding leaves. -/
theorem lines_fold (text : Text) : lines (fold text) = foldLines ((lines text).map untabbed) := by
  have single : ∀ line ∈ (lines text).map untabbed, '\n' ∉ line := by
    intro line member
    obtain ⟨before, before_member, rfl⟩ := List.mem_map.mp member
    exact not_mem_untabbed (.inl (of_mem_lines before_member).1) (by decide)
  rw [fold, lines_unlines (not_mem_of_mem_foldLines (by decide) single)]
  obtain ⟨first, rest, split⟩ := List.exists_cons_of_ne_nil (lines_ne_nil text)
  rw [split]
  exact foldOnto_ne_nil _ _

/-- After the first line of a folded text stand lines that start anew, with others added to them. -/
theorem forall_mem_tail_lines_fold {P : Text → Prop} {text : Text}
    (starts : ∀ line ∈ (lines text).tail, isContinuation (untabbed line) = false →
      P (untabbed line))
    (grows : ∀ {before}, P before → ∀ line, P (extend before line)) :
    ∀ line ∈ (lines (fold text)).tail, P line := by
  obtain ⟨first, rest, split⟩ := List.exists_cons_of_ne_nil (lines_ne_nil text)
  rw [split, List.tail_cons] at starts
  rw [lines_fold, split, List.map_cons, foldLines]
  exact forall_mem_tail_foldOnto _ (List.forall_mem_map.mpr starts)
    fun line _ _ holds => grows holds line

theorem isFlush_extend {previous : Text} (flush : IsFlush previous) (line : Text) :
    IsFlush (extend previous line) := by
  cases previous with
  | nil => simp [extend, isBlank]
  | cons char rest =>
    unfold extend
    split <;> exact flush.append (by simp) _

/-- Lines are indented with spaces and tabs, if at all. -/
def IsPlainlyIndented (text : Text) : Prop :=
  ∀ line ∈ lines text, ∀ char ∈ line.head?, isBlank char = true → char = ' ' ∨ char = '\t'

/-- Folding leaves no indented line after the first one of a plainly indented text. -/
theorem IsPlainlyIndented.exists_lines_fold {text : Text} (plain : IsPlainlyIndented text) :
    ∃ first others, lines (fold text) = first :: others ∧ ∀ line ∈ others, IsFlush line := by
  obtain ⟨first, others, split⟩ := List.exists_cons_of_ne_nil (lines_ne_nil (fold text))
  have flush : ∀ line ∈ (lines (fold text)).tail, IsFlush line := by
    refine forall_mem_tail_lines_fold (fun line member starts => ?_) isFlush_extend
    cases line with
    | nil => exact isFlush_nil
    | cons char rest =>
      have unspaced : char ≠ ' ' ∧ char ≠ '\t' := by
        by_cases tab : char = '\t'
        · simp [isContinuation, untabbed, tab] at starts
        · exact ⟨by simpa [isContinuation, untabbed, tab] using starts, tab⟩
      have solid : isBlank char = false := by
        cases blank : isBlank char with
        | false => rfl
        | true =>
          rcases plain _ (List.mem_of_mem_tail member) char rfl blank with space | tab
          · exact absurd space unspaced.1
          · exact absurd tab unspaced.2
      simpa [untabbed, unspaced.2] using solid
  exact ⟨first, others, split, by rwa [split] at flush⟩

end Folding
end PackageRepos
