import Mathlib.Data.List.Induction
import PackageRepos.Proofs.Text.Lines
import PackageRepos.Proofs.Text.Trimmed
import PackageRepos.RepoOption.Codec

/-!
# Items of joined texts

The items of a list are those of its parts when a separator stands between the parts, and blanks
around a list do not matter. Where two parts meet without a separator, two of their items become
one.
-/

namespace PackageRepos
namespace OptionKind

open Text

/-- The text holds no separator. -/
def IsUndivided (text : Text) : Prop := ∀ char ∈ text, isSeparator char = false

theorem isSeparator_iff {char : Char} : isSeparator char = true ↔ char ∈ [' ', ',', ';'] := by
  simp [isSeparator, or_assoc]

@[simp]
theorem listItems_nil : listItems [] = [] := rfl

theorem listItems_append_cons {separator : Char} (separates : isSeparator separator = true)
    (front back : Text) :
    listItems (front ++ separator :: back) = listItems front ++ listItems back := by
  simp only [listItems, List.splitOnP_append_cons front back separates, List.map_append,
    List.filter_append]

/-- Joined texts have the items of each of them. -/
theorem listItems_join_eq {separator : Char} (separates : isSeparator separator = true)
    (texts : List Text) : listItems (join [separator] texts) = texts.flatMap listItems := by
  induction texts with
  | nil => rfl
  | cons text rest ih =>
    cases rest with
    | nil => simp [join]
    | cons next others =>
      have joined : join [separator] (text :: next :: others) =
          text ++ separator :: join [separator] (next :: others) := by
        simp [join, List.intercalate_cons_of_ne_nil]
      rw [joined, listItems_append_cons separates, ih]
      rfl

theorem listItems_of_isUndivided {text : Text} (undivided : IsUndivided text) :
    listItems text = if strip text = [] then [] else [strip text] := by
  rw [listItems, List.splitOnP_eq_singleton undivided]
  split
  · rename_i blank
    simp [blank]
  · rename_i filled
    simp [filled]

/-- Items are trimmed pieces between separators, and none is empty. -/
theorem of_mem_listItems {text item : Text} (member : item ∈ listItems text) :
    item ≠ [] ∧ IsTrimmed item ∧ IsUndivided item := by
  obtain ⟨stripped, filled⟩ := List.mem_filter.mp member
  obtain ⟨piece, piece_member, rfl⟩ := List.mem_map.mp stripped
  have undivided := (of_mem_splitOnP piece_member).1
  exact ⟨by simpa using filled, isTrimmed_strip piece,
    fun char inner => undivided char (strip_subset piece inner)⟩

/-- A text that could be an item is the only item that it has. -/
theorem listItems_eq_singleton {item : Text} (filled : item ≠ []) (trimmed : IsTrimmed item)
    (undivided : IsUndivided item) : listItems item = [item] := by
  rw [listItems_of_isUndivided undivided, strip_of_isTrimmed trimmed, if_neg filled]

/-- Joined items are told apart by the separators between them. -/
theorem listItems_join_of_singletons {separator : Char} (separates : isSeparator separator = true)
    {items : List Text} (single : ∀ item ∈ items, listItems item = [item]) :
    listItems (join [separator] items) = items := by
  rw [listItems_join_eq separates, flatMap_eq_self single]

/-- What stands after the last separator of a text is all that text added to its end touches. -/
theorem exists_last_piece (text : Text) :
    ∃ front piece, IsUndivided piece ∧
      (∀ back, listItems (text ++ back) = listItems front ++ listItems (piece ++ back)) ∧
      ∀ char ∈ text.getLast?, isSeparator char = false → piece.getLast? = some char := by
  induction text using List.reverseRecOn with
  | nil => exact ⟨[], [], by simp [IsUndivided], by simp, by simp⟩
  | append_singleton start last ih =>
    cases separates : isSeparator last with
    | true =>
      refine ⟨start, [], by simp [IsUndivided], fun back => ?_, by simp [separates]⟩
      rw [List.append_assoc, List.singleton_append, listItems_append_cons separates,
        List.nil_append]
    | false =>
      obtain ⟨front, piece, undivided, items_eq, -⟩ := ih
      refine ⟨front, piece ++ [last], ?_, fun back => ?_, by simp⟩
      · exact List.forall_mem_append.mpr ⟨undivided, by simpa using separates⟩
      · rw [List.append_assoc, items_eq, List.append_assoc]

/-- What stands before the first separator of a text is all that text added to its start touches. -/
theorem exists_first_piece (text : Text) :
    ∃ piece back, IsUndivided piece ∧
      (∀ front, listItems (front ++ text) = listItems (front ++ piece) ++ listItems back) ∧
      ∀ char ∈ text.head?, isSeparator char = false → piece.head? = some char := by
  induction text with
  | nil => exact ⟨[], [], by simp [IsUndivided], by simp, by simp⟩
  | cons first rest ih =>
    cases separates : isSeparator first with
    | true =>
      refine ⟨[], rest, by simp [IsUndivided], fun front => ?_, by simp [separates]⟩
      rw [listItems_append_cons separates, List.append_nil]
    | false =>
      obtain ⟨piece, back, undivided, items_eq, -⟩ := ih
      refine ⟨first :: piece, back, ?_, fun front => ?_, by simp⟩
      · exact List.forall_mem_cons.mpr ⟨separates, undivided⟩
      · rw [List.append_cons front first rest, items_eq, ← List.append_cons]

/-! ## Blanks -/

theorem listItems_cons_blank {char : Char} (blank : isBlank char = true) (text : Text) :
    listItems (char :: text) = listItems text := by
  cases separates : isSeparator char with
  | true => exact listItems_append_cons separates [] text
  | false =>
    obtain ⟨piece, back, undivided, items_eq, -⟩ := exists_first_piece text
    have longer : IsUndivided (char :: piece) := List.forall_mem_cons.mpr ⟨separates, undivided⟩
    have stripped : strip (char :: piece) = strip piece := by simp [strip, stripLeft, blank]
    have same := items_eq []
    have added := items_eq [char]
    rw [List.nil_append, List.nil_append] at same
    rw [List.singleton_append, List.singleton_append] at added
    rw [added, same, listItems_of_isUndivided longer, listItems_of_isUndivided undivided, stripped]

theorem listItems_concat_blank {char : Char} (blank : isBlank char = true) (text : Text) :
    listItems (text ++ [char]) = listItems text := by
  cases separates : isSeparator char with
  | true => simpa using listItems_append_cons separates text []
  | false =>
    obtain ⟨front, piece, undivided, items_eq, -⟩ := exists_last_piece text
    have longer : IsUndivided (piece ++ [char]) :=
      List.forall_mem_append.mpr ⟨undivided, by simpa using separates⟩
    have stripped : strip (piece ++ [char]) = strip piece :=
      strip_append_blank (by simpa using blank) piece
    have same := items_eq []
    rw [List.append_nil, List.append_nil] at same
    rw [items_eq, same, listItems_of_isUndivided longer, listItems_of_isUndivided undivided,
      stripped]

@[simp]
theorem listItems_stripLeft (text : Text) : listItems (stripLeft text) = listItems text := by
  induction text with
  | nil => rfl
  | cons char rest ih =>
    cases blank : isBlank char with
    | true =>
      rw [listItems_cons_blank blank, ← ih]
      simp [stripLeft, blank]
    | false => simp [stripLeft, blank]

@[simp]
theorem listItems_stripRight (text : Text) : listItems (stripRight text) = listItems text := by
  induction text using List.reverseRecOn with
  | nil => rfl
  | append_singleton start last ih =>
    cases blank : isBlank last with
    | true => rw [listItems_concat_blank blank, stripRight_append_blank (by simpa using blank), ih]
    | false => rw [stripRight_of_isFlush_reverse (by simpa using blank)]

@[simp]
theorem listItems_strip (text : Text) : listItems (strip text) = listItems text := by
  rw [strip, listItems_stripRight, listItems_stripLeft]

/-! ## Parts without a separator between them -/

/-- A text without separators is one item, unless it is blank. -/
theorem length_listItems_of_isUndivided {text : Text} {char : Char} (undivided : IsUndivided text)
    (member : char ∈ text) (solid : isBlank char = false) : (listItems text).length = 1 := by
  have filled : strip text ≠ [] := List.ne_nil_of_mem (mem_strip_of_solid member solid)
  rw [listItems_of_isUndivided undivided, if_neg filled, List.length_singleton]

/-- Two texts that meet in characters that are neither blank nor separators have one item less
together. -/
theorem length_listItems_append {front back : Text} {last first : Char}
    (ends : front.getLast? = some last) (starts : back.head? = some first)
    (last_solid : isBlank last = false) (last_joins : isSeparator last = false)
    (first_solid : isBlank first = false) (first_joins : isSeparator first = false) :
    (listItems (front ++ back)).length + 1 =
      (listItems front).length + (listItems back).length := by
  obtain ⟨before, left, left_undivided, left_eq, left_last⟩ := exists_last_piece front
  obtain ⟨right, after, right_undivided, right_eq, right_first⟩ := exists_first_piece back
  have last_member : last ∈ left := List.mem_of_getLast? (left_last last ends last_joins)
  have first_member : first ∈ right := List.mem_of_head? (right_first first starts first_joins)
  have front_length : (listItems front).length = (listItems before).length + 1 := by
    have front_eq := left_eq []
    rw [List.append_nil, List.append_nil] at front_eq
    rw [front_eq, List.length_append,
      length_listItems_of_isUndivided left_undivided last_member last_solid]
  have back_length : (listItems back).length = 1 + (listItems after).length := by
    have back_eq := right_eq []
    rw [List.nil_append, List.nil_append] at back_eq
    rw [back_eq, List.length_append,
      length_listItems_of_isUndivided right_undivided first_member first_solid]
  have joint_undivided : IsUndivided (left ++ right) :=
    List.forall_mem_append.mpr ⟨left_undivided, right_undivided⟩
  have joint_length := length_listItems_of_isUndivided joint_undivided
    (List.mem_append_left right last_member) last_solid
  rw [left_eq, right_eq, List.length_append, List.length_append, joint_length, front_length,
    back_length]
  omega

end OptionKind
end PackageRepos
