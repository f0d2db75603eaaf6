import PackageRepos.Proofs.KeyFile.Rereading

/-!
# The layout of a printed key file

A printed text is laid out as headers and entries, each below its comments, and comments at the end.
Nothing in it is a comment but these.
-/

namespace PackageRepos
namespace KeyFile

open Text

/-- The comments among lines. -/
def commentsAmong (rows : List Text) : List Text := (rows.map strip).filter isComment

/-- The comment lines of a text. -/
def commentLines (text : Text) : List Text := commentsAmong (lines text)

/-- The lines of an entry below its comments. -/
def entryRows (keyFile : KeyFile) (comments : Option Anchor → List Text) (group key : Text) :
    List Text :=
  comments (some { group, key := some key }) ++
    lines (entryLine key ((keyFile.value? group key).getD []))

/-- The lines of a group: its header below its comments, its entries, and a blank line. -/
def groupRows (keyFile : KeyFile) (comments : Option Anchor → List Text) (group : Text) :
    List Text :=
  comments (some { group }) ++ headerLine group ::
    (keyFile.keysOf group).flatMap (keyFile.entryRows comments group) ++ [[]]

/-- The lines of a key file that prints the given comments: each above the header or the entry that
is its place, and those without a place at the end. -/
def layout (keyFile : KeyFile) (comments : Option Anchor → List Text) : List Text :=
  keyFile.groupNames.flatMap (keyFile.groupRows comments) ++ comments none

/-- The comments that a key file holds, by their places. -/
def ownComments (keyFile : KeyFile) (place : Option Anchor) : List Text :=
  match place with
  | some anchor => keyFile.commentsAt anchor
  | none => keyFile.trailing

/-! ## Comments among lines -/

theorem commentsAmong_append (front back : List Text) :
    commentsAmong (front ++ back) = commentsAmong front ++ commentsAmong back := by
  simp [commentsAmong]

theorem commentsAmong_flatMap {α : Type} (items : List α) (rows : α → List Text) :
    commentsAmong (items.flatMap rows) = items.flatMap fun item => commentsAmong (rows item) := by
  induction items with
  | nil => rfl
  | cons item rest ih => rw [List.flatMap_cons, commentsAmong_append, ih, List.flatMap_cons]

theorem commentsAmong_of_isCommentLine {rows : List Text}
    (comments : ∀ line ∈ rows, IsCommentLine line) : commentsAmong rows = rows := by
  have trimmed : rows.map strip = rows :=
    (List.map_congr_left fun line member =>
      strip_of_isTrimmed (comments line member).trimmed).trans (List.map_id rows)
  rw [commentsAmong, trimmed]
  exact List.filter_eq_self.mpr fun line member => (comments line member).marked

theorem commentsAmong_headerLine (group : Text) : commentsAmong [headerLine group] = [] := by
  simp [commentsAmong, strip_of_isTrimmed (isTrimmed_headerLine group)]

/-- No line of a printed entry is a comment. -/
theorem commentsAmong_entryLine {key value : Text} (stored : IsStored key value) :
    commentsAmong (lines (entryLine key value)) = [] := by
  obtain ⟨_, ⟨first, further, rfl, entry, further_proper⟩, rfl⟩ := stored
  rw [lines_entryLine entry further_proper]
  refine List.filter_eq_nil_iff.mpr fun line member => ?_
  rcases List.mem_cons.mp member with rfl | member
  · simpa using entry.reads_back.2.1
  · obtain ⟨row, inner, rfl⟩ := List.mem_map.mp member
    have proper := further_proper row inner
    simpa [strip_of_isTrimmed proper.trimmed] using proper.uncommented

/-! ## Printed lines -/

section Layout

variable {keyFile : KeyFile} (proper : keyFile.Proper)
include proper

/-- The comments in a layout are those that are laid out, place by place. -/
theorem commentsAmong_layout {comments : Option Anchor → List Text}
    (commented : ∀ place, ∀ line ∈ comments place, IsCommentLine line) :
    commentsAmong (keyFile.layout comments) =
      (keyFile.anchors.map some ++ [none]).flatMap comments := by
  have keys : ∀ group,
      commentsAmong ((keyFile.keysOf group).flatMap (keyFile.entryRows comments group)) =
        (keyFile.keysOf group).flatMap fun key => comments (some { group, key := some key }) := by
    intro group
    rw [commentsAmong_flatMap]
    refine congrArg List.flatten (List.map_congr_left fun key member => ?_)
    obtain ⟨value, found⟩ := mem_keysOf_iff.mp member
    rw [entryRows, commentsAmong_append, commentsAmong_of_isCommentLine (commented _), found,
      Option.getD_some, commentsAmong_entryLine (proper.stored group key value found),
      List.append_nil]
  have groups : ∀ group, commentsAmong (keyFile.groupRows comments group) =
      comments (some { group }) ++
        (keyFile.keysOf group).flatMap fun key => comments (some { group, key := some key }) := by
    intro group
    rw [groupRows, ← List.singleton_append, commentsAmong_append, commentsAmong_append,
      commentsAmong_append, commentsAmong_of_isCommentLine (commented _), commentsAmong_headerLine,
      keys]
    exact List.append_nil _
  rw [layout, commentsAmong_append, commentsAmong_flatMap,
    commentsAmong_of_isCommentLine (commented none)]
  simp only [groups, anchors, List.map_flatMap, List.map_cons, List.map_map, List.flatMap_append,
    List.flatMap_assoc, List.flatMap_cons, List.flatMap_map, List.flatMap_nil, List.append_nil,
    Function.comp_apply]

/-- A proper key file prints the layout of its own comments. -/
theorem flatMap_lines_bodyLines :
    keyFile.bodyLines.flatMap lines = keyFile.layout keyFile.ownComments := by
  have comments : ∀ anchor, (keyFile.commentsAt anchor).flatMap lines = keyFile.commentsAt anchor :=
    fun anchor => flatMap_lines_of_not_mem fun line member =>
      (proper.commented anchor line member).single
  have keys : ∀ group, ((keyFile.keysOf group).flatMap (keyFile.keyLines group)).flatMap lines =
      (keyFile.keysOf group).flatMap (keyFile.entryRows keyFile.ownComments group) := by
    intro group
    rw [List.flatMap_assoc]
    refine congrArg List.flatten (List.map_congr_left fun key _ => ?_)
    rw [keyLines, List.flatMap_append, comments, List.flatMap_singleton]
    rfl
  have groups : ∀ group ∈ keyFile.groupNames,
      (keyFile.groupLines group).flatMap lines = keyFile.groupRows keyFile.ownComments group := by
    intro group member
    rw [groupLines_eq, List.flatMap_append, List.flatMap_append, List.flatMap_append, comments,
      List.flatMap_singleton, List.flatMap_singleton, lines_headerLine (proper.named group member),
      keys]
    simp [groupRows, ownComments, lines]
  rw [bodyLines, List.flatMap_append, List.flatMap_assoc, layout,
    flatMap_lines_of_not_mem fun line member => (proper.trailed line member).single]
  exact congrArg (· ++ keyFile.trailing)
    (congrArg List.flatten (List.map_congr_left groups))

/-- A printed text has the lines of the layout, but for an empty line at the end. -/
theorem lines_print_eq_layout :
    lines keyFile.print = keyFile.layout keyFile.ownComments ∨
      lines keyFile.print = keyFile.layout keyFile.ownComments ++ [[]] := by
  obtain ⟨rows, rows_eq, body_eq⟩ := lines_print keyFile
  rw [flatMap_lines_bodyLines proper] at body_eq
  rcases body_eq with same | longer
  · exact .inr (by rw [rows_eq, same])
  · exact .inl (by rw [rows_eq, longer])

end Layout

end KeyFile
end PackageRepos
