import PackageRepos.Proofs.KeyFile.Rereading

/-!
# Printed key files read back

The comments of a printed key file are collected where they were printed, so that the whole key file
is read again. What may stand in the way is a value of several lines, since nothing that is read
from printed lines has one.
-/

namespace PackageRepos
namespace KeyFile

open Text

/-! ## Comments -/

namespace Collecting

/-- Between two states the comments of the given anchors were collected, and none wait. -/
structure Collects (keyFile : KeyFile) (before after : Collecting) (printed : List Anchor) :
    Prop where
  settled : after.pending = []
  kept : ∀ anchor, after.linesAt anchor =
    before.linesAt anchor ++ (printed.filter (· = anchor)).flatMap keyFile.commentsAt

theorem collects_refl (keyFile : KeyFile) {collecting : Collecting}
    (settled : collecting.pending = []) : Collects keyFile collecting collecting [] :=
  ⟨settled, by simp⟩

theorem Collects.trans {keyFile : KeyFile} {before between after : Collecting}
    {front back : List Anchor} (first : Collects keyFile before between front)
    (second : Collects keyFile between after back) :
    Collects keyFile before after (front ++ back) :=
  ⟨second.settled, fun anchor => by simp [second.kept, first.kept]⟩

theorem step_blank (collecting : Collecting) : collecting.step [] = collecting := rfl

theorem foldl_step_comments (collecting : Collecting) {comments : List Text}
    (proper : ∀ line ∈ comments, IsCommentLine line) :
    comments.foldl step collecting =
      { collecting with pending := collecting.pending ++ comments } := by
  induction comments generalizing collecting with
  | nil => simp
  | cons line rest ih =>
    have comment := proper line List.mem_cons_self
    have nonempty := ne_nil_of_isComment comment.marked
    have taken : collecting.step line =
        { collecting with pending := collecting.pending ++ [line] } := by
      simp [step, strip_of_isTrimmed comment.trimmed, nonempty, comment.marked]
    rw [List.foldl_cons, taken,
      ih _ fun other member => proper other (List.mem_cons_of_mem _ member)]
    simp

theorem step_header (collecting : Collecting) {group : Text} (named : IsGroupName group) :
    collecting.step (headerLine group) =
      { collecting with group := some group }.attach { group } := by
  have content : strip (headerLine group) = headerLine group :=
    strip_of_isTrimmed (isTrimmed_headerLine group)
  have nonempty : (headerLine group).isEmpty = false := rfl
  simp [step, content, nonempty, headerName?_headerLine named]

theorem step_entry {collecting : Collecting} {group key value : Text}
    (current : collecting.group = some group) (entry : IsEntry key value) :
    collecting.step (entryLine key value) = collecting.attach { group, key := some key } := by
  obtain ⟨nonempty, uncommented, headerless, -, part⟩ := entry.reads_back
  unfold step
  simp [nonempty, uncommented, headerless, current, part]

/-- Comments that are followed by the line of an anchor are kept there. -/
theorem collects_attach {keyFile : KeyFile} {before after : Collecting} {anchor : Anchor}
    (same : after.comments = before.comments)
    (waiting : after.pending = keyFile.commentsAt anchor) :
    Collects keyFile before (after.attach anchor) [anchor] := by
  refine ⟨pending_attach after anchor, fun other => ?_⟩
  have kept : ∀ anchor, after.linesAt anchor = before.linesAt anchor := fun anchor => by
    simp [linesAt, same]
  rw [linesAt_attach, kept, kept, waiting]
  by_cases here : other = anchor
  · simp [here]
  · simp [here, Ne.symm here]

end Collecting

/-- No anchor is printed twice. -/
theorem nodup_anchors (keyFile : KeyFile) : keyFile.anchors.Nodup := by
  refine List.pairwise_flatMap.mpr ⟨fun group _ => ?_, ?_⟩
  · refine List.nodup_cons.mpr ⟨by simp, List.pairwise_map.mpr ?_⟩
    exact (keyFile.nodup_keysOf group).imp fun differs same => differs (by simpa using same)
  · have names : keyFile.groupNames.Nodup := keyFile.groups.keys_nodup
    refine names.imp
      fun {left right} differs anchor left_member other right_member same => differs ?_
    have of_member : ∀ {group : Text} {anchor : Anchor}, anchor ∈ { group : Anchor } ::
        (keyFile.keysOf group).map (fun key => { group, key := some key }) →
          anchor.group = group := by
      intro group anchor member
      rcases List.mem_cons.mp member with rfl | member
      · rfl
      · obtain ⟨key, -, rfl⟩ := List.mem_map.mp member
        rfl
    rw [← of_member left_member, ← of_member right_member, same]

section Comments

variable {keyFile : KeyFile} (proper : keyFile.Proper) (single : keyFile.SingleLined)
include proper single

theorem collects_keyLines {collecting : Collecting} {group key : Text}
    (member : key ∈ keyFile.keysOf group) (current : collecting.group = some group)
    (settled : collecting.pending = []) :
    ((keyFile.keyLines group key).foldl Collecting.step collecting).group = some group ∧
      Collecting.Collects keyFile collecting
        ((keyFile.keyLines group key).foldl Collecting.step collecting)
        [{ group, key := some key }] := by
  obtain ⟨value, found⟩ := mem_keysOf_iff.mp member
  have entry : IsEntry key value :=
    (proper.stored group key value found).isEntry (single group key value found)
  have taken : ∀ pending, { collecting with pending }.step (entryLine key value) =
      { collecting with pending }.attach { group, key := some key } :=
    fun _ => Collecting.step_entry current entry
  rw [keyLines, found, Option.getD_some, List.foldl_append,
    Collecting.foldl_step_comments collecting (proper.commented _), settled, List.foldl_cons,
    List.foldl_nil, taken]
  exact ⟨by simpa using current, Collecting.collects_attach rfl rfl⟩

theorem collects_keys {collecting : Collecting} {group : Text} {keys : List Text}
    (members : ∀ key ∈ keys, key ∈ keyFile.keysOf group) (current : collecting.group = some group)
    (settled : collecting.pending = []) :
    Collecting.Collects keyFile collecting
      ((keys.flatMap (keyFile.keyLines group)).foldl Collecting.step collecting)
      (keys.map fun key => { group, key := some key }) := by
  induction keys generalizing collecting with
  | nil => exact Collecting.collects_refl keyFile settled
  | cons key rest ih =>
    obtain ⟨next_current, first⟩ :=
      collects_keyLines proper single (members key List.mem_cons_self) current settled
    rw [List.flatMap_cons, List.foldl_append, List.map_cons, ← List.singleton_append]
    exact first.trans (ih (fun other member => members other (List.mem_cons_of_mem key member))
      next_current first.settled)

/-- The comments printed with a group are collected above its header and its keys. -/
theorem collects_groupLines {collecting : Collecting} {group : Text}
    (member : group ∈ keyFile.groupNames) (settled : collecting.pending = []) :
    Collecting.Collects keyFile collecting
      ((keyFile.groupLines group).foldl Collecting.step collecting)
      ({ group } :: (keyFile.keysOf group).map fun key => { group, key := some key }) := by
  rw [groupLines_eq, List.foldl_append, List.foldl_append, List.foldl_append,
    Collecting.foldl_step_comments collecting (proper.commented _), settled, List.nil_append]
  simp only [List.foldl_cons, List.foldl_nil, Collecting.step_blank]
  rw [Collecting.step_header _ (proper.named group member), ← List.singleton_append]
  have header : Collecting.Collects keyFile collecting
      (Collecting.attach
        { collecting with pending := keyFile.commentsAt { group }, group := some group } { group })
      [{ group }] :=
    Collecting.collects_attach rfl rfl
  exact header.trans (collects_keys proper single (fun _ => id) (by simp) header.settled)

theorem collects_groups (collecting : Collecting) {names : List Text}
    (members : ∀ group ∈ names, group ∈ keyFile.groupNames) (settled : collecting.pending = []) :
    Collecting.Collects keyFile collecting
      ((names.flatMap keyFile.groupLines).foldl Collecting.step collecting)
      (names.flatMap fun group =>
        { group } :: (keyFile.keysOf group).map fun key => { group, key := some key }) := by
  induction names generalizing collecting with
  | nil => exact Collecting.collects_refl keyFile settled
  | cons group rest ih =>
    have first := collects_groupLines proper single (members group List.mem_cons_self) settled
    rw [List.flatMap_cons, List.foldl_append, List.flatMap_cons]
    exact first.trans (ih _ (fun other member => members other (List.mem_cons_of_mem group member))
      first.settled)

/-- The comments of a printed key file are collected where they stood, and nowhere else. -/
theorem collectComments_print :
    (collectComments keyFile.print).pending = keyFile.trailing ∧
      ∀ anchor, (collectComments keyFile.print).linesAt anchor =
        if anchor ∈ keyFile.anchors then keyFile.commentsAt anchor else [] := by
  have collected : collectComments keyFile.print = keyFile.bodyLines.foldl Collecting.step {} := by
    obtain ⟨rows, rows_eq, body_eq⟩ := lines_print keyFile
    rw [proper.flatMap_lines_bodyLines single] at body_eq
    rw [collectComments, rows_eq]
    rcases body_eq with same | blank
    · rw [same, List.foldl_append]
      rfl
    · rw [blank]
  have groups := collects_groups proper single {} (fun _ => id) rfl
  rw [collected, bodyLines, List.foldl_append,
    Collecting.foldl_step_comments _ proper.trailed, groups.settled]
  refine ⟨rfl, fun anchor => ?_⟩
  have kept := groups.kept anchor
  rw [← anchors, List.filter_eq, keyFile.nodup_anchors.count] at kept
  by_cases member : anchor ∈ keyFile.anchors <;> simpa [Collecting.linesAt, member] using kept

end Comments

/-! ## Key files -/

/-- The second key file is what the first one prints: it has the same groups, and the same comments
wherever the first one prints some. -/
structure Reprints (keyFile again : KeyFile) : Prop where
  groups : again.groups = keyFile.groups
  shared : again.shared = keyFile.shared
  comments : ∀ anchor ∈ keyFile.anchors, again.commentsAt anchor = keyFile.commentsAt anchor
  unanchored : ∀ anchor, anchor ∉ keyFile.anchors → again.commentsAt anchor = []
  trailing : again.trailing = keyFile.trailing

namespace Reprints

variable {keyFile again : KeyFile} (reprints : keyFile.Reprints again)
include reprints

theorem groupNames : again.groupNames = keyFile.groupNames := by
  rw [KeyFile.groupNames, reprints.groups, KeyFile.groupNames]

theorem value? (group key : Text) : again.value? group key = keyFile.value? group key := by
  rw [KeyFile.value?, reprints.groups, reprints.shared, KeyFile.value?]

theorem keysOf (group : Text) : again.keysOf group = keyFile.keysOf group := by
  rw [KeyFile.keysOf, reprints.groups, reprints.shared, KeyFile.keysOf]

theorem printsAs : keyFile.PrintsAs again where
  groupNames := reprints.groupNames
  keysOf group _ := reprints.keysOf group
  value? group _ := reprints.value? group
  comments := reprints.comments
  trailing := reprints.trailing

theorem print : again.print = keyFile.print := reprints.printsAs.print

end Reprints

/-- A key file whose values stand on one line each is read again from its printed text. -/
theorem parse_print {keyFile : KeyFile} (proper : keyFile.Proper) (single : keyFile.SingleLined) :
    ∃ again, parse keyFile.print = .ok again ∧ keyFile.Reprints again := by
  obtain ⟨trailing, comments⟩ := collectComments_print proper single
  refine ⟨_, by rw [parse, readGroups_print proper single], ?_⟩
  exact
    { groups := rfl
      shared := proper.unshared.symm
      comments := fun anchor member => (comments anchor).trans (if_pos member)
      unanchored := fun anchor missing => (comments anchor).trans (if_neg missing)
      trailing }

/-- A reading all of whose values stand on one line. -/
def Reading.SingleLined (reading : Reading) : Prop :=
  ∀ group key lines, (reading.entriesOf group).get? key = some lines → ∃ line, lines = [line]

/-- Lines that continue nothing give every value one line. -/
theorem Reading.SingleLined.advance {reading next : Reading} {line : Text}
    (single : reading.SingleLined) (advance : Advance reading line next)
    (starts : IsContent line → reading.continued? (indentation line) = none) :
    next.SingleLined := by
  cases advance with
  | skipped => exact single
  | continued content continues => simp [starts content] at continues
  | opened content found =>
    intro group key lines stored
    rw [Reading.entriesOf_openGroup] at stored
    exact single group key lines stored
  | started content current headerless found nonempty =>
    intro group key lines stored
    rw [Reading.get?_entriesOf_startValue] at stored
    split at stored
    · exact ⟨_, (Option.some.inj stored).symm⟩
    · exact single group key lines stored
  | noted number kept => exact single

/-- A value of a text whose lines continue nothing stands on one line. -/
theorem singleLined_of_reading {text : Text} {keyFile : KeyFile} (parsed : parse text = .ok keyFile)
    (single : ∀ final, Reading.steps {} 1 (terminatedLines text) = .ok final → final.SingleLined) :
    keyFile.SingleLined := by
  obtain ⟨final, run, rfl⟩ := parse_eq_ok parsed
  intro group key value found
  rw [value?_of_reading] at found
  obtain ⟨pieces, pieces_found, rfl⟩ := Option.map_eq_some_iff.mp found
  obtain ⟨line, rfl⟩ := single final run group key pieces pieces_found
  have stored := (Reading.proper_of_steps run).stored group key [line] pieces_found
  rw [joinValue_of_areStored stored]
  obtain ⟨first, further, pieces_eq, entry, -⟩ := stored
  obtain ⟨rfl, rfl⟩ := List.cons.inj pieces_eq
  simpa using entry.value_single

/-- One of the lines is taken as the continuation of a value. -/
def Reading.continuesWithin (reading : Reading) (number : Nat) : List Text → Bool
  | [] => false
  | line :: rest =>
    let content := strip line
    (!content.isEmpty && !isComment content && (reading.continued? (indentation line)).isSome) ||
      match reading.step number line with
      | .ok next => next.continuesWithin (number + 1) rest
      | .error _ => false

/-- Some line of the text is taken as the continuation of a value. -/
def hasContinuation (text : Text) : Bool :=
  Reading.continuesWithin {} 1 (terminatedLines text)

theorem Reading.SingleLined.steps {reading final : Reading} {number : Nat} {lines : List Text}
    (single : reading.SingleLined) (run : reading.steps number lines = .ok final)
    (starts : reading.continuesWithin number lines = false) : final.SingleLined := by
  induction lines generalizing reading number with
  | nil =>
    cases run
    exact single
  | cons line rest ih =>
    obtain ⟨next, taken, later⟩ := steps_cons_eq_ok run
    simp only [Reading.continuesWithin, taken, Bool.or_eq_false_iff] at starts
    obtain ⟨start_here, start_later⟩ := starts
    refine ih (single.advance (advance_of_step taken) fun content => ?_) later start_later
    simpa [content.nonempty, content.uncommented] using start_here

theorem Reading.singleLined_empty : Reading.SingleLined {} := by
  simp [Reading.SingleLined, Reading.entriesOf]

theorem singleLined_of_hasContinuation {text : Text} {keyFile : KeyFile}
    (parsed : parse text = .ok keyFile) (none : hasContinuation text = false) :
    keyFile.SingleLined :=
  singleLined_of_reading parsed fun _ run => Reading.singleLined_empty.steps run none

/-- Whatever a printed key file is read as has its values on one line each: no printed line is
indented. -/
theorem Proper.singleLined_of_parse_print {keyFile again : KeyFile} (proper : keyFile.Proper)
    (parsed : parse keyFile.print = .ok again) : again.SingleLined := by
  apply singleLined_of_reading parsed
  intro final run
  obtain ⟨rows, rows_eq, body_eq⟩ := lines_print keyFile
  rw [terminatedLines_of_lines rows_eq] at run
  have flush : ∀ row ∈ rows, IsFlush row := by
    intro row member
    apply proper.isFlush_of_mem_bodyLines
    rcases body_eq with same | blank
    · rwa [same]
    · rw [blank]
      exact List.mem_append_left _ member
  apply Reading.steps_induction Reading.SingleLined _ Reading.singleLined_empty run
  intro reading next line member single advance
  refine single.advance advance fun content => ?_
  obtain ⟨row, row_member, rfl⟩ := List.mem_map.mp member
  have nonempty : strip row ≠ [] := Reading.strip_terminated row ▸ content.nonempty
  rw [Reading.indentation_terminated (flush row row_member) nonempty, Reading.continued?_zero]

end KeyFile
end PackageRepos
