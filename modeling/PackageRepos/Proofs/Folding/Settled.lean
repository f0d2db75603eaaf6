import PackageRepos.Proofs.Folding

/-!
# Folded texts

A text is folded when it has no tab and no line but the first one starts with a space. Folding makes
such a text of any text and leaves exactly these texts alone, so that folding a second time changes
nothing.
-/

namespace PackageRepos
namespace Folding

open Text

/-- The text has nothing to be folded. -/
structure IsFolded (text : Text) : Prop where
  untabbed : '\t' ∉ text
  starts : ∀ line ∈ (lines text).tail, line.head? ≠ some ' '

theorem isContinuation_eq_false_iff {line : Text} :
    isContinuation line = false ↔ line.head? ≠ some ' ' := by
  simp [isContinuation]

/-- A line that starts anew does so with others added to it. Before anything that is added to an
empty line there is a semicolon. -/
theorem head?_extend {previous : Text} (starts : previous.head? ≠ some ' ') (line : Text) :
    (extend previous line).head? ≠ some ' ' := by
  cases previous with
  | nil => simp [extend]
  | cons char rest =>
    unfold extend
    split <;> simpa using starts

theorem isFolded_fold (text : Text) : IsFolded (fold text) where
  untabbed := not_mem_fold (.inr rfl) (by decide) (by decide) (by decide)
  starts := forall_mem_tail_lines_fold (fun _ _ => isContinuation_eq_false_iff.mp) head?_extend

theorem IsFolded.fold_eq_self {text : Text} (folded : IsFolded text) : fold text = text :=
  Folding.fold_eq_self folded.untabbed fun line member =>
    isContinuation_eq_false_iff.mpr (folded.starts line member)

/-- Folding comes to an end in one pass, and only a folded text is left as it is. -/
theorem fold_settles (text : Text) :
    fold (fold text) = fold text ∧
      (fold text = text ↔
        '\t' ∉ text ∧ ∀ line ∈ (lines text).tail, line.head? ≠ some ' ') := by
  refine ⟨(isFolded_fold text).fold_eq_self, ?_, ?_⟩
  · intro same
    have folded := isFolded_fold text
    rw [same] at folded
    exact ⟨folded.untabbed, folded.starts⟩
  · rintro ⟨untabbed, starts⟩
    exact IsFolded.fold_eq_self ⟨untabbed, starts⟩

/-- A blank line before an indented one, and one that ends with an equals sign. -/
example : fold (Text.of " k =\n\tv\n\n w\n") = Text.of " k =v\n;w\n" ∧
    fold (Text.of " k =v\n;w\n") = Text.of " k =v\n;w\n" := by
  decide

end Folding
end PackageRepos
