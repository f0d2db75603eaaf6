import Mathlib.Data.List.Forall2
import PackageRepos.Proofs.Folding

/-!
# Folding line by line

The first line of a text, and every later line that is not indented, begins a line of the folded
text, which grows by the indented lines up to the next such line. So folding never looks across a
line that starts anew, keeps these lines in order, and loses nothing but blanks.
-/

namespace PackageRepos
namespace Folding

open Text

/-- The text starts with neither a space nor a tab. -/
def StartsAnew (text : Text) : Prop := ∀ char ∈ text.head?, char ≠ ' ' ∧ char ≠ '\t'

theorem startsAnew_nil : StartsAnew [] := nofun

theorem startsAnew_cons {char : Char} {rest : Text} :
    StartsAnew (char :: rest) ↔ char ≠ ' ' ∧ char ≠ '\t' :=
  ⟨fun starts => starts char rfl, fun starts _ same => Option.some.inj same ▸ starts⟩

instance : DecidablePred StartsAnew
  | [] => .isTrue startsAnew_nil
  | _ :: _ => decidable_of_iff _ startsAnew_cons.symm

/-- The lines that start anew. -/
def startingAnew (pieces : List Text) : List Text := pieces.filter fun line => StartsAnew line

/-- The lines that continue no other line: the first one, and all others that start anew. -/
def leadingOf : List Text → List Text
  | [] => []
  | first :: rest => first :: startingAnew rest

/-- The lines of a text that continue no other line. -/
def leadingLines (text : Text) : List Text := leadingOf (lines text)

/-- What is left of a text without its blanks and semicolons. -/
def substance (text : Text) : Text := text.filter fun char => !isBlank char && char != ';'

@[simp]
theorem isContinuation_untabbed (line : Text) :
    isContinuation (untabbed line) = !decide (StartsAnew line) := by
  cases line with
  | nil => simp [isContinuation, untabbed, startsAnew_nil]
  | cons char rest =>
    by_cases tab : char = '\t'
    · simp [isContinuation, untabbed, startsAnew_cons, tab]
    · by_cases space : char = ' ' <;> simp [isContinuation, untabbed, startsAnew_cons, tab, space]

/-- A text starts like its first line. -/
theorem startsAnew_iff_of_lines {text first : Text} {others : List Text}
    (split : lines text = first :: others) : StartsAnew first ↔ StartsAnew text := by
  have joined : text = unlines (first :: others) := by rw [← split, unlines_lines]
  cases first with
  | nil =>
    refine iff_of_true startsAnew_nil ?_
    cases others with
    | nil => simpa [joined] using startsAnew_nil
    | cons next rest => simp [joined, unlines_cons, StartsAnew]
  | cons char rest =>
    cases others with
    | nil => simp [joined]
    | cons next later => simp [joined, unlines_cons, StartsAnew]

/-! ## Leading lines -/

/-- A line that starts anew ends the folding of the lines before it. -/
theorem foldOnto_append (previous : Text) (front : List Text) {line : Text} (rest : List Text)
    (starts : isContinuation line = false) :
    foldOnto previous (front ++ line :: rest) = foldOnto previous front ++ foldOnto line rest := by
  induction front generalizing previous with
  | nil => exact foldOnto_cons_of_start rest starts
  | cons next others ih =>
    cases continues : isContinuation next with
    | true =>
      rw [List.cons_append, foldOnto_cons_of_continuation _ continues,
        foldOnto_cons_of_continuation _ continues, ih]
    | false =>
      rw [List.cons_append, foldOnto_cons_of_start _ continues,
        foldOnto_cons_of_start _ continues, ih, List.cons_append]

theorem isPrefix_extend (previous line : Text) : previous <+: extend previous line := by
  unfold extend
  split <;> exact List.prefix_append _ _

/-- Every line that is folded to begins with a leading line, in order. What has been added to the
line before is a beginning all the same. -/
theorem forall₂_foldOnto {lead previous : Text} (begins : lead <+: previous) (rest : List Text) :
    List.Forall₂ (fun line folded => line <+: folded)
      (lead :: rest.filter fun line => !isContinuation line) (foldOnto previous rest) := by
  induction rest generalizing lead previous with
  | nil => exact .cons begins .nil
  | cons next others ih =>
    cases continues : isContinuation next with
    | true =>
      rw [foldOnto_cons_of_continuation others continues,
        List.filter_cons_of_neg (by simp [continues])]
      exact ih (begins.trans (isPrefix_extend previous next))
    | false =>
      rw [foldOnto_cons_of_start others continues, List.filter_cons_of_pos (by simp [continues])]
      exact .cons begins (ih List.prefix_rfl)

theorem map_untabbed_startingAnew (pieces : List Text) :
    (startingAnew pieces).map untabbed =
      (pieces.map untabbed).filter fun line => !isContinuation line := by
  simp [startingAnew, List.filter_map, Function.comp_def]

/-- The leading lines of a text begin the lines of the folded text. -/
theorem forall₂_lines_fold (text : Text) :
    List.Forall₂ (fun line folded => untabbed line <+: folded) (leadingLines text)
      (lines (fold text)) := by
  obtain ⟨first, rest, split⟩ := List.exists_cons_of_ne_nil (lines_ne_nil text)
  have begun := forall₂_foldOnto (List.prefix_refl (untabbed first)) (rest.map untabbed)
  rw [← map_untabbed_startingAnew, ← List.map_cons, List.forall₂_map_left_iff] at begun
  rw [leadingLines, lines_fold, split]
  exact begun

theorem leadingLines_append_newline (front back : Text) :
    leadingLines (front ++ '\n' :: back) = leadingLines front ++ startingAnew (lines back) := by
  obtain ⟨first, rest, split⟩ := List.exists_cons_of_ne_nil (lines_ne_nil front)
  simp [leadingLines, lines_append_newline, split, leadingOf, startingAnew]

/-- Among the lines of a text that start anew are all leading lines but the first one. -/
theorem length_startingAnew (text : Text) :
    (startingAnew (lines text)).length + (if StartsAnew text then 0 else 1) =
      (leadingLines text).length := by
  obtain ⟨first, rest, split⟩ := List.exists_cons_of_ne_nil (lines_ne_nil text)
  have same := startsAnew_iff_of_lines split
  by_cases starts : StartsAnew text
  · simp [leadingLines, leadingOf, startingAnew, split, starts, same.mpr starts]
  · simp [leadingLines, leadingOf, startingAnew, split, starts, mt same.mp starts]

/-! ## Locality -/

theorem fold_append_newline (front : Text) {back : Text} (starts : StartsAnew back) :
    fold (front ++ '\n' :: back) = fold front ++ '\n' :: fold back := by
  obtain ⟨first, rest, front_split⟩ := List.exists_cons_of_ne_nil (lines_ne_nil front)
  obtain ⟨next, others, back_split⟩ := List.exists_cons_of_ne_nil (lines_ne_nil back)
  have fresh : isContinuation (untabbed next) = false := by
    simpa using (startsAnew_iff_of_lines back_split).mpr starts
  rw [fold, fold, fold, lines_append_newline, front_split, back_split, ← unlines_append]
  · simp [foldLines, foldOnto_append _ _ _ fresh]
  · exact foldOnto_ne_nil _ _
  · exact foldOnto_ne_nil _ _

theorem length_lines_fold (text : Text) :
    (lines (fold text)).length = (leadingLines text).length :=
  (forall₂_lines_fold text).length_eq.symm

/-- A text that is folded apart from what stands before it starts anew: otherwise its first line
would be lost among the lines before it. -/
theorem startsAnew_of_length_le {text : Text}
    (most : (leadingLines text).length ≤ (startingAnew (lines text)).length) : StartsAnew text := by
  by_contra indented
  have fewer := length_startingAnew text
  rw [if_neg indented] at fewer
  omega

theorem length_startingAnew_le (text : Text) :
    (startingAnew (lines text)).length ≤ (leadingLines text).length := by
  have fewer := length_startingAnew text
  omega

/-- Texts are folded apart from each other exactly where the later ones are not indented, so that a
part of a text is folded in the same way whatever stands before and after it. -/
theorem fold_locally (front part back : Text) :
    (fold (front ++ '\n' :: part) = fold front ++ '\n' :: fold part ↔ StartsAnew part) ∧
      (fold (front ++ '\n' :: part ++ '\n' :: back) =
          fold front ++ '\n' :: fold part ++ '\n' :: fold back ↔
        StartsAnew part ∧ StartsAnew back) := by
  have part_most := length_startingAnew_le part
  have back_most := length_startingAnew_le back
  refine ⟨⟨fun apart => ?_, fold_append_newline front⟩, fun apart => ?_, ?_⟩
  · have counted := congrArg (fun text => (lines text).length) apart
    simp only [length_lines_fold, lines_append_newline, leadingLines_append_newline,
      List.length_append] at counted
    exact startsAnew_of_length_le (by omega)
  · have counted := congrArg (fun text => (lines text).length) apart
    simp only [length_lines_fold, lines_append_newline, leadingLines_append_newline,
      List.length_append] at counted
    exact ⟨startsAnew_of_length_le (by omega), startsAnew_of_length_le (by omega)⟩
  · rintro ⟨part_starts, back_starts⟩
    rw [fold_append_newline _ back_starts, fold_append_newline front part_starts]

/-- A blank line, and the indented lines after it, are folded apart from the line before. -/
example : fold (Text.of "k =\n\n\tv") = Text.of "k =\n" ++ Text.of ";v" := by
  decide

/-! ## Completeness -/

theorem substance_append (front back : Text) :
    substance (front ++ back) = substance front ++ substance back :=
  List.filter_append front back

theorem substance_untabbed (line : Text) : substance (untabbed line) = substance line := by
  induction line with
  | nil => rfl
  | cons char rest ih =>
    simp only [substance, untabbed, List.map_cons, List.filter_cons] at ih ⊢
    rw [ih]
    by_cases tab : char = '\t' <;> simp [tab, isBlank]

theorem substance_stripLeft (line : Text) : substance (stripLeft line) = substance line := by
  have blank : substance (line.takeWhile isBlank) = [] := by
    rw [substance, List.filter_eq_nil_iff]
    intro char member
    simp [List.all_eq_true.mp List.all_takeWhile char member]
  calc
    substance (stripLeft line) =
        substance (line.takeWhile isBlank) ++ substance (stripLeft line) := by
      rw [blank, List.nil_append]
    _ = substance line := by
      rw [← substance_append, stripLeft, List.takeWhile_append_dropWhile]

theorem substance_extend (previous line : Text) :
    substance (extend previous line) = substance previous ++ substance line := by
  unfold extend
  split
  · rw [substance_append, substance_stripLeft]
  · rw [substance_append, ← substance_stripLeft line]
    simp [substance]

theorem flatMap_substance_foldOnto (previous : Text) (rest : List Text) :
    (foldOnto previous rest).flatMap substance = substance previous ++ rest.flatMap substance := by
  induction rest generalizing previous with
  | nil => simp
  | cons next others ih =>
    cases continues : isContinuation next with
    | true =>
      rw [foldOnto_cons_of_continuation others continues, ih, substance_extend]
      simp
    | false =>
      rw [foldOnto_cons_of_start others continues, List.flatMap_cons, List.flatMap_cons, ih]

theorem substance_unlines (pieces : List Text) :
    substance (unlines pieces) = pieces.flatMap substance := by
  induction pieces with
  | nil => rfl
  | cons piece rest ih =>
    cases rest with
    | nil => simp
    | cons next others =>
      rw [unlines_cons (List.cons_ne_nil _ _), substance_append, List.flatMap_cons, ← ih]
      simp [substance, isBlank]

theorem substance_fold (text : Text) : substance (fold text) = substance text := by
  obtain ⟨first, rest, split⟩ := List.exists_cons_of_ne_nil (lines_ne_nil text)
  have untabbed_eq : (rest.map untabbed).flatMap substance = rest.flatMap substance := by
    simp [List.flatMap_map, substance_untabbed]
  calc
    substance (fold text) = substance first ++ rest.flatMap substance := by
      rw [fold, split, List.map_cons, foldLines, substance_unlines, flatMap_substance_foldOnto,
        substance_untabbed, untabbed_eq]
    _ = substance text := by rw [← List.flatMap_cons, ← split, ← substance_unlines, unlines_lines]

/-- A folded text has one line for every leading line, in order, which begins with that line; and
nothing is lost or added on the way but blanks and semicolons. -/
theorem fold_completes (text : Text) :
    List.Forall₂ (fun line folded => untabbed line <+: folded) (leadingLines text)
        (lines (fold text)) ∧
      substance (fold text) = substance text :=
  ⟨forall₂_lines_fold text, substance_fold text⟩

end Folding
end PackageRepos
