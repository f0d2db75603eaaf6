import Mathlib.Data.List.Basic
import PackageRepos.Proofs.KeyFile.Shape

/-!
# The lines of a printed key file

The lines of the text that a proper key file prints to. None of them starts with a blank, and when
every value stands on one line, they are the lines that were joined.
-/

namespace PackageRepos
namespace KeyFile

open Text

/-- The lines of all groups, and the comments after them. -/
def bodyLines (keyFile : KeyFile) : List Text :=
  keyFile.groupNames.flatMap keyFile.groupLines ++ keyFile.trailing

/-- The anchors that a key file prints, in order. -/
def anchors (keyFile : KeyFile) : List Anchor :=
  keyFile.groupNames.flatMap fun group =>
    { group } :: (keyFile.keysOf group).map fun key => { group, key := some key }

theorem printLines_eq (keyFile : KeyFile) :
    keyFile.printLines = match keyFile.bodyLines.getLast? with
      | some (_ :: _) => keyFile.bodyLines ++ [[]]
      | _ => keyFile.bodyLines :=
  rfl

/-- The lines of a printed text are those of its parts, but for an empty line at the end. -/
theorem lines_print (keyFile : KeyFile) :
    ∃ rows, lines keyFile.print = rows ++ [[]] ∧
      (keyFile.bodyLines.flatMap lines = rows ∨
        keyFile.bodyLines.flatMap lines = rows ++ [[]]) := by
  rw [print, printLines_eq]
  rcases List.eq_nil_or_concat keyFile.bodyLines with empty | ⟨front, last, body_eq⟩
  · exact ⟨[], by simp [empty, lines], .inl (by simp [empty])⟩
  · rw [List.concat_eq_append] at body_eq
    rw [body_eq, List.getLast?_concat]
    cases last with
    | nil =>
      refine ⟨front.flatMap lines, ?_, .inr (by simp [lines])⟩
      rw [lines_unlines_flatMap (by simp)]
      simp [lines]
    | cons char rest =>
      refine ⟨_, ?_, .inl rfl⟩
      rw [lines_unlines_flatMap (by simp)]
      simp [lines]

/-- The keys that a group shows are those with a value. -/
theorem mem_keysOf_iff {keyFile : KeyFile} {group key : Text} :
    key ∈ keyFile.keysOf group ↔ ∃ value, keyFile.value? group key = some value := by
  have own : ((keyFile.groups.get? group).bind fun entries => entries.get? key) =
      ((keyFile.groups.get? group).getD ∅).get? key := by
    cases keyFile.groups.get? group <;> rfl
  simp only [keysOf, value?, own, List.mem_append, List.mem_filter]
  generalize (keyFile.groups.get? group).getD ∅ = entries
  constructor
  · rintro (member | ⟨member, -⟩)
    · obtain ⟨value, found⟩ := OrderedMap.exists_get?_of_mem member
      exact ⟨value, by simp [found]⟩
    · obtain ⟨value, found⟩ := OrderedMap.exists_get?_of_mem member
      cases own_found : entries.get? key with
      | none => exact ⟨value, by simp [found]⟩
      | some other => exact ⟨other, rfl⟩
  · rintro ⟨value, found⟩
    cases own_found : entries.get? key with
    | some other => exact .inl (OrderedMap.mem_keys_of_get? own_found)
    | none =>
      rw [own_found, Option.none_or] at found
      have missing := OrderedMap.get?_eq_none_iff.mp own_found
      exact .inr ⟨OrderedMap.mem_keys_of_get? found, by simpa using missing⟩

/-- No key is shown twice in a group. -/
theorem nodup_keysOf (keyFile : KeyFile) (group : Text) : (keyFile.keysOf group).Nodup := by
  have own := ((keyFile.groups.get? group).getD ∅).keys_nodup
  refine List.nodup_append.mpr ⟨own, keyFile.shared.keys_nodup.filter _, ?_⟩
  rintro key set other shared rfl
  simpa [set] using (List.mem_filter.mp shared).2

theorem keysOf_of_unshared {keyFile : KeyFile} (unshared : keyFile.shared = ∅) (group : Text) :
    keyFile.keysOf group = ((keyFile.groups.get? group).getD ∅).keys := by
  simp [keysOf, unshared]

/-! ## The same text -/

/-- The second key file prints as the first one: it shows the same entries in the same groups, and
the same comments wherever the first one prints some. -/
structure PrintsAs (keyFile again : KeyFile) : Prop where
  groupNames : again.groupNames = keyFile.groupNames
  keysOf : ∀ group ∈ keyFile.groupNames, again.keysOf group = keyFile.keysOf group
  value? : ∀ group ∈ keyFile.groupNames, ∀ key, again.value? group key = keyFile.value? group key
  comments : ∀ anchor ∈ keyFile.anchors, again.commentsAt anchor = keyFile.commentsAt anchor
  trailing : again.trailing = keyFile.trailing

theorem header_mem_anchors {keyFile : KeyFile} {group : Text}
    (member : group ∈ keyFile.groupNames) : { group } ∈ keyFile.anchors :=
  List.mem_flatMap.mpr ⟨group, member, List.mem_cons_self⟩

theorem key_mem_anchors {keyFile : KeyFile} {group key : Text}
    (member : group ∈ keyFile.groupNames) (shown : key ∈ keyFile.keysOf group) :
    { group, key := some key } ∈ keyFile.anchors :=
  List.mem_flatMap.mpr
    ⟨group, member, List.mem_cons_of_mem _ (List.mem_map.mpr ⟨key, shown, rfl⟩)⟩

namespace PrintsAs

variable {keyFile again : KeyFile} (same : keyFile.PrintsAs again)
include same

theorem groupLines {group : Text} (member : group ∈ keyFile.groupNames) :
    again.groupLines group = keyFile.groupLines group := by
  have keys : (keyFile.keysOf group).flatMap (again.keyLines group) =
      (keyFile.keysOf group).flatMap (keyFile.keyLines group) := by
    refine List.flatMap_congr fun key shown => ?_
    rw [keyLines, keyLines, same.value? group member,
      same.comments _ (key_mem_anchors member shown)]
  rw [KeyFile.groupLines, same.keysOf group member, keys,
    same.comments _ (header_mem_anchors member), KeyFile.groupLines]

theorem print : again.print = keyFile.print := by
  have body : again.bodyLines = keyFile.bodyLines := by
    rw [bodyLines, same.groupNames, same.trailing, bodyLines]
    exact congrArg (· ++ keyFile.trailing)
      (List.flatMap_congr fun group member => same.groupLines member)
  rw [KeyFile.print, printLines_eq, body, ← printLines_eq, KeyFile.print]

theorem anchors : again.anchors = keyFile.anchors := by
  rw [KeyFile.anchors, same.groupNames, KeyFile.anchors]
  exact List.flatMap_congr fun group member => by rw [same.keysOf group member]

theorem trans {final : KeyFile} (next : again.PrintsAs final) : keyFile.PrintsAs final where
  groupNames := next.groupNames.trans same.groupNames
  keysOf group member :=
    (next.keysOf group (same.groupNames ▸ member)).trans (same.keysOf group member)
  value? group member key :=
    (next.value? group (same.groupNames ▸ member) key).trans (same.value? group member key)
  comments anchor member :=
    (next.comments anchor (same.anchors ▸ member)).trans (same.comments anchor member)
  trailing := next.trailing.trans same.trailing

end PrintsAs

/-! ## Flush lines -/

theorem IsCommentLine.isFlush {line : Text} (comment : IsCommentLine line) : IsFlush line :=
  comment.trimmed.1

/-- A value of several lines prints as the entry of its first line and the other lines. -/
theorem lines_entryLine {key first : Text} {further : List Text} (entry : IsEntry key first)
    (proper : ∀ line ∈ further, IsFurtherLine line) :
    lines (entryLine key (unlines (first :: further))) = entryLine key first :: further := by
  have entry_single : '\n' ∉ entryLine key first := by
    simp [entryLine, Text.of, entry.single, entry.value_single]
  rcases List.eq_nil_or_concat further with rfl | ⟨front, last, further_eq⟩
  · simpa using lines_of_not_mem entry_single
  · have nonempty : further ≠ [] := by simp [further_eq]
    have line_eq : entryLine key (unlines (first :: further)) =
        entryLine key first ++ '\n' :: unlines further := by
      simp [entryLine, unlines_cons nonempty]
    rw [line_eq, lines_append_newline, lines_of_not_mem entry_single,
      lines_unlines (fun line member => (proper line member).single) nonempty]
    rfl

theorem lines_headerLine {group : Text} (named : IsGroupName group) :
    lines (headerLine group) = [headerLine group] :=
  lines_of_not_mem (by simp [headerLine, named.single])

/-- Every printed line starts without a blank. -/
theorem Proper.isFlush_of_mem_bodyLines {keyFile : KeyFile} (proper : keyFile.Proper) {line : Text}
    (member : line ∈ keyFile.bodyLines.flatMap lines) : IsFlush line := by
  have comment_flush : ∀ {piece}, IsCommentLine piece → line ∈ lines piece → IsFlush line := by
    intro piece comment inner
    rw [lines_of_not_mem comment.single] at inner
    exact List.mem_singleton.mp inner ▸ comment.isFlush
  obtain ⟨piece, piece_member, inner⟩ := List.mem_flatMap.mp member
  rcases List.mem_append.mp piece_member with in_groups | in_trailing
  · obtain ⟨group, group_member, in_group⟩ := List.mem_flatMap.mp in_groups
    simp only [groupLines, List.mem_append, List.mem_cons, List.mem_flatMap, keyLines,
      List.not_mem_nil, or_false] at in_group
    rcases in_group with (comment | rfl | ⟨key, key_member, comment | rfl⟩) | rfl
    · exact comment_flush (proper.commented _ piece comment) inner
    · rw [lines_headerLine (proper.named group group_member)] at inner
      exact List.mem_singleton.mp inner ▸ (isTrimmed_headerLine group).1
    · exact comment_flush (proper.commented _ piece comment) inner
    · obtain ⟨value, found⟩ := mem_keysOf_iff.mp key_member
      obtain ⟨_, ⟨first, further, rfl, entry, further_proper⟩, rfl⟩ :=
        proper.stored group key value found
      rw [found, Option.getD_some, lines_entryLine entry further_proper] at inner
      rcases List.mem_cons.mp inner with rfl | later
      · exact entry.isFlush_entryLine
      · exact (further_proper line later).trimmed.1
    · obtain rfl : line = [] := by simpa [lines] using inner
      exact isFlush_nil
  · exact comment_flush (proper.trailed piece in_trailing) inner

/-! ## Characters -/

/-- The characters that printing adds inside a line. -/
def layoutChars : Text := Text.of "[] ="

/-- Printed lines hold nothing but what the key file holds and the layout. -/
theorem Lacks.not_mem_of_mem_bodyLines {keyFile : KeyFile} {char : Char}
    (lacks : keyFile.Lacks char)
    (other : char ∉ layoutChars) {line : Text} (member : line ∈ keyFile.bodyLines) :
    char ∉ line := by
  obtain ⟨opening, closing, space, sign⟩ :
      char ≠ '[' ∧ char ≠ ']' ∧ char ≠ ' ' ∧ char ≠ '=' := by
    simpa [layoutChars, Text.of] using other
  rcases List.mem_append.mp member with in_groups | in_trailing
  · obtain ⟨group, group_member, in_group⟩ := List.mem_flatMap.mp in_groups
    simp only [groupLines, List.mem_append, List.mem_cons, List.mem_flatMap, keyLines,
      List.not_mem_nil, or_false] at in_group
    rcases in_group with (comment | rfl | ⟨key, key_member, comment | rfl⟩) | rfl
    · exact lacks.comments _ line comment
    · simp [headerLine, opening, closing, lacks.groups group group_member]
    · exact lacks.comments _ line comment
    · obtain ⟨value, found⟩ := mem_keysOf_iff.mp key_member
      have absent := lacks.entries group key value found
      simp [entryLine, Text.of, found, absent, space, sign]
    · simp
  · exact lacks.trailing line in_trailing

theorem Lacks.not_mem_print {keyFile : KeyFile} {char : Char} (lacks : keyFile.Lacks char)
    (other : char ∉ layoutChars) (inner : char ≠ '\n') : char ∉ keyFile.print := by
  apply not_mem_unlines inner
  intro piece member
  rw [printLines_eq] at member
  split at member
  · rcases List.mem_append.mp member with in_body | last
    · exact lacks.not_mem_of_mem_bodyLines other in_body
    · simp [List.mem_singleton.mp last]
  · exact lacks.not_mem_of_mem_bodyLines other member

theorem Proper.lacks_newline {keyFile : KeyFile} (proper : keyFile.Proper)
    (single : keyFile.SingleLined) : keyFile.Lacks '\n' where
  groups := fun group member => (proper.named group member).single
  entries := fun group key value found =>
    have value_single := single group key value found
    ⟨((proper.stored group key value found).isEntry value_single).single, value_single⟩
  comments := fun anchor line member => (proper.commented anchor line member).single
  trailing := fun line member => (proper.trailed line member).single

/-- Without values of several lines the parts of a printed text are its lines. -/
theorem Proper.flatMap_lines_bodyLines {keyFile : KeyFile} (proper : keyFile.Proper)
    (single : keyFile.SingleLined) : keyFile.bodyLines.flatMap lines = keyFile.bodyLines :=
  flatMap_lines_of_not_mem fun _ member =>
    (proper.lacks_newline single).not_mem_of_mem_bodyLines (by decide) member

end KeyFile
end PackageRepos
