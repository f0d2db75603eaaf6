import PackageRepos.KeyFile.Comments
import PackageRepos.Proofs.KeyFile.Reading

/-!
# The shape of a parsed key file

A key file that comes from a text has proper names, keys, values and comments, shares no entries,
and holds no character that the text does not hold.
-/

namespace PackageRepos
namespace KeyFile

open Text

/-- A value as key files hold it: the lines that a reading stores for its key. -/
def IsStored (key value : Text) : Prop := ∃ lines, AreStored key lines ∧ value = unlines lines

/-- A key file as texts describe it. -/
structure Proper (keyFile : KeyFile) : Prop where
  unshared : keyFile.shared = ∅
  named : ∀ group ∈ keyFile.groupNames, IsGroupName group
  stored : ∀ group key value, keyFile.value? group key = some value → IsStored key value
  commented : ∀ anchor, ∀ line ∈ keyFile.commentsAt anchor, IsCommentLine line
  trailed : ∀ line ∈ keyFile.trailing, IsCommentLine line

/-- Every value stands on one line. -/
def SingleLined (keyFile : KeyFile) : Prop :=
  ∀ group key value, keyFile.value? group key = some value → '\n' ∉ value

/-- The key file holds no name, key, value or comment with the character. -/
structure Lacks (keyFile : KeyFile) (char : Char) : Prop where
  groups : ∀ group ∈ keyFile.groupNames, char ∉ group
  entries : ∀ group key value, keyFile.value? group key = some value → char ∉ key ∧ char ∉ value
  comments : ∀ anchor, ∀ line ∈ keyFile.commentsAt anchor, char ∉ line
  trailing : ∀ line ∈ keyFile.trailing, char ∉ line

/-! ## Values -/

theorem suffix_unlines (pieces : List Text) (last : Text) :
    last <:+ unlines (pieces ++ [last]) := by
  induction pieces with
  | nil => simp
  | cons piece rest ih =>
    rw [List.cons_append, unlines_cons (by simp)]
    exact ih.trans ((List.suffix_cons _ _).trans (List.suffix_append _ _))

/-- Joined lines end as the last line does, provided that it is not empty. -/
theorem isFlush_reverse_unlines {last : Text} (solid : IsFlush last.reverse) (nonempty : last ≠ [])
    (pieces : List Text) : IsFlush (unlines (pieces ++ [last])).reverse := by
  obtain ⟨front, joined⟩ := suffix_unlines pieces last
  rw [← joined, List.reverse_append]
  exact solid.append (by simpa using nonempty) front.reverse

theorem joinValue_of_areStored {key : Text} {lines : List Text} (stored : AreStored key lines) :
    Reading.joinValue lines = unlines lines := by
  obtain ⟨first, further, rfl, entry, proper⟩ := stored
  apply stripRight_of_isFlush_reverse
  rcases List.eq_nil_or_concat further with rfl | ⟨front, last, rfl⟩
  · simpa using entry.value_trimmed.2
  · have last_proper := proper last (by simp)
    rw [List.concat_eq_append, ← List.cons_append]
    exact isFlush_reverse_unlines last_proper.trimmed.2 last_proper.nonempty _

/-- A stored value on one line makes an entry with its key. -/
theorem IsStored.isEntry {key value : Text} (stored : IsStored key value)
    (single : '\n' ∉ value) : IsEntry key value := by
  obtain ⟨_, ⟨first, further, rfl, entry, -⟩, rfl⟩ := stored
  cases further with
  | nil => simpa using entry
  | cons next others => simp [unlines_cons] at single

theorem IsEntry.isStored {key value : Text} (entry : IsEntry key value) : IsStored key value :=
  ⟨[value], ⟨value, [], rfl, entry, by simp⟩, by simp⟩

theorem value?_of_unshared {keyFile : KeyFile} (unshared : keyFile.shared = ∅) (group key : Text) :
    keyFile.value? group key =
      (keyFile.groups.get? group).bind fun entries => entries.get? key := by
  simp [value?, unshared]

/-! ## Comments -/

namespace Collecting

/-- The comments kept above an anchor. -/
def linesAt (collecting : Collecting) (anchor : Anchor) : List Text :=
  (collecting.comments.get? anchor).getD []

/-- Every comment collected, kept or waiting, satisfies a property. -/
def Holds (property : Text → Prop) (collecting : Collecting) : Prop :=
  (∀ anchor, ∀ line ∈ collecting.linesAt anchor, property line) ∧
    ∀ line ∈ collecting.pending, property line

/-- Waiting comments are kept after those that an anchor has. -/
theorem linesAt_attach (collecting : Collecting) (anchor other : Anchor) :
    (collecting.attach anchor).linesAt other =
      if other = anchor then collecting.linesAt anchor ++ collecting.pending
      else collecting.linesAt other := by
  unfold attach
  split
  · rename_i empty
    have none_waiting : collecting.pending = [] := List.isEmpty_iff.mp empty
    split
    · rename_i same
      simp [none_waiting, same]
    · rfl
  · by_cases same : other = anchor <;>
      simp [linesAt, OrderedMap.alter, OrderedMap.get?_insert, same]

@[simp]
theorem pending_attach (collecting : Collecting) (anchor : Anchor) :
    (collecting.attach anchor).pending = [] := by
  unfold attach
  split
  · rename_i empty
    exact List.isEmpty_iff.mp empty
  · rfl

@[simp]
theorem group_attach (collecting : Collecting) (anchor : Anchor) :
    (collecting.attach anchor).group = collecting.group := by
  unfold attach
  split <;> rfl

theorem Holds.attach {property : Text → Prop} {collecting : Collecting}
    (holds : collecting.Holds property) (anchor : Anchor) :
    (collecting.attach anchor).Holds property := by
  refine ⟨?_, by simp⟩
  intro other line member
  rw [linesAt_attach] at member
  split at member
  · rcases List.mem_append.mp member with kept | waiting
    · exact holds.1 anchor line kept
    · exact holds.2 line waiting
  · exact holds.1 other line member

/-- A property of all comment lines of a text is one of all comments collected. -/
theorem Holds.step {property : Text → Prop} {collecting : Collecting} {line : Text}
    (holds : collecting.Holds property)
    (comment : isComment (strip line) = true → property (strip line)) :
    (collecting.step line).Holds property := by
  unfold Collecting.step
  simp only
  split
  · exact holds
  · split
    · rename_i marked
      refine ⟨holds.1, ?_⟩
      intro piece member
      rcases List.mem_append.mp member with waiting | new
      · exact holds.2 piece waiting
      · exact List.mem_singleton.mp new ▸ comment marked
    · split
      · refine Holds.attach ?_ _
        exact ⟨holds.1, holds.2⟩
      · exact holds.attach _
      · exact holds

end Collecting

theorem holds_collectComments {property : Text → Prop} {text : Text}
    (comments : ∀ line ∈ lines text, isComment (strip line) = true → property (strip line)) :
    (collectComments text).Holds property := by
  rw [collectComments]
  generalize lines text = rows at comments
  suffices kept : ∀ start : Collecting, start.Holds property →
      (rows.foldl Collecting.step start).Holds property by
    exact kept {} ⟨by simp [Collecting.linesAt], by simp⟩
  induction rows with
  | nil => exact fun start holds => holds
  | cons row rest ih =>
    intro start holds
    apply ih (fun line member => comments line (List.mem_cons_of_mem row member))
    exact holds.step (comments row List.mem_cons_self)

/-! ## Parsing -/

/-- What a parsed key file is made of: all lines of the text could be read. -/
theorem exists_unfaulted_of_parse {text : Text} {keyFile : KeyFile}
    (parsed : parse text = .ok keyFile) :
    ∃ final : Reading, Reading.steps {} 1 (terminatedLines text) = .ok final ∧
      final.faults = [] ∧
      keyFile =
        { groups := final.groups.mapValues (·.mapValues Reading.joinValue)
          comments := (collectComments text).comments
          trailing := (collectComments text).pending } := by
  unfold parse readGroups at parsed
  split at parsed
  · rename_i groups read
    split at read
    · rename_i final run
      unfold Reading.finish at read
      split at read
      · rename_i unfaulted
        cases read
        cases parsed
        exact ⟨final, run, List.isEmpty_iff.mp unfaulted, rfl⟩
      · simp at read
    · simp at read
  · simp at parsed

theorem parse_eq_ok {text : Text} {keyFile : KeyFile} (parsed : parse text = .ok keyFile) :
    ∃ final : Reading, Reading.steps {} 1 (terminatedLines text) = .ok final ∧
      keyFile =
        { groups := final.groups.mapValues (·.mapValues Reading.joinValue)
          comments := (collectComments text).comments
          trailing := (collectComments text).pending } := by
  obtain ⟨final, run, -, made⟩ := exists_unfaulted_of_parse parsed
  exact ⟨final, run, made⟩

/-- The values of a parsed key file are the joined lines of the reading. -/
theorem value?_of_reading (final : Reading) (collecting : Collecting) (group key : Text) :
    ({ groups := final.groups.mapValues (·.mapValues Reading.joinValue)
       comments := collecting.comments
       trailing := collecting.pending } : KeyFile).value? group key =
      ((final.entriesOf group).get? key).map Reading.joinValue := by
  simp only [value?, OrderedMap.get?_mapValues, OrderedMap.get?_empty, Option.or_none,
    Reading.entriesOf]
  cases final.groups.get? group with
  | none => rfl
  | some entries => simp

/-- What a text describes is a proper key file. -/
theorem proper_of_parse {text : Text} {keyFile : KeyFile} (parsed : parse text = .ok keyFile) :
    keyFile.Proper := by
  obtain ⟨final, run, rfl⟩ := parse_eq_ok parsed
  have proper := Reading.proper_of_steps run
  have comments : (collectComments text).Holds IsCommentLine := by
    apply holds_collectComments
    intro line member marked
    exact ⟨marked, isTrimmed_strip line,
      fun newline => (of_mem_lines member).1 (strip_subset line newline)⟩
  refine
    { unshared := rfl
      named := ?_
      stored := ?_
      commented := comments.1
      trailed := comments.2 }
  · intro group member
    exact proper.named group (by simpa [groupNames] using member)
  · intro group key value found
    rw [value?_of_reading] at found
    obtain ⟨pieces, piece_found, rfl⟩ := Option.map_eq_some_iff.mp found
    have stored := proper.stored group key pieces piece_found
    exact ⟨pieces, stored, joinValue_of_areStored stored⟩

/-! ## Characters -/

namespace Reading

/-- A reading holds no name, key or line with the character. -/
def Lacks (reading : Reading) (char : Char) : Prop :=
  (∀ group ∈ reading.groups.keys, char ∉ group) ∧
    ∀ group key lines, (reading.entriesOf group).get? key = some lines →
      char ∉ key ∧ ∀ line ∈ lines, char ∉ line

theorem lacks_empty (char : Char) : Lacks {} char := ⟨by simp, by simp [entriesOf]⟩

theorem Lacks.continueValue {reading : Reading} {char : Char} {group key line : Text}
    (lacks : reading.Lacks char) (proper : reading.Proper) (current : reading.group = some group)
    (pointed : reading.key = some key) (absent : char ∉ line) :
    (reading.continueValue group key line).Lacks char := by
  obtain ⟨before, before_found⟩ := proper.pointed group key current pointed
  have before_lacks := lacks.2 group key before before_found
  constructor
  · intro other member
    rcases OrderedMap.mem_keys_insert.mp member with rfl | old
    · exact lacks.1 _ (proper.current _ current)
    · exact lacks.1 other old
  · intro other asked lines found
    rw [get?_entriesOf_continueValue, before_found] at found
    split at found
    · rename_i same
      obtain rfl : before ++ [line] = lines := by simpa using found
      refine ⟨same.2 ▸ before_lacks.1, ?_⟩
      intro piece member
      rcases List.mem_append.mp member with old | new
      · exact before_lacks.2 piece old
      · exact List.mem_singleton.mp new ▸ absent
    · exact lacks.2 other asked lines found

theorem Lacks.openGroup {reading : Reading} {char : Char} {group : Text}
    (lacks : reading.Lacks char) (absent : char ∉ group) :
    (reading.openGroup group).Lacks char := by
  constructor
  · intro other member
    rcases OrderedMap.mem_keys_insert.mp member with rfl | old
    · exact absent
    · exact lacks.1 other old
  · intro other key lines found
    rw [entriesOf_openGroup] at found
    exact lacks.2 other key lines found

theorem Lacks.startValue {reading : Reading} {char : Char} {group key value : Text}
    (lacks : reading.Lacks char) (proper : reading.Proper) (current : reading.group = some group)
    (key_absent : char ∉ key) (value_absent : char ∉ value) :
    (reading.startValue group key value).Lacks char := by
  constructor
  · intro other member
    rcases OrderedMap.mem_keys_insert.mp member with rfl | old
    · exact lacks.1 _ (proper.current _ current)
    · exact lacks.1 other old
  · intro other asked lines found
    rw [get?_entriesOf_startValue] at found
    split at found
    · rename_i same
      obtain rfl : [value] = lines := by simpa using found
      exact ⟨same.2 ▸ key_absent, by simpa using value_absent⟩
    · exact lacks.2 other asked lines found

/-- A line without the character adds nothing that holds it. -/
theorem Lacks.advance {reading next : Reading} {line : Text} {char : Char}
    (lacks : reading.Lacks char) (proper : reading.Proper) (absent : char ∉ strip line)
    (advance : Advance reading line next) : next.Lacks char := by
  cases advance with
  | skipped => exact lacks
  | continued content continues =>
    obtain ⟨current, pointed⟩ := continued?_eq_some continues
    exact lacks.continueValue proper current pointed absent
  | opened content found =>
    obtain ⟨ending, content_eq, -⟩ := headerName?_eq_some_iff.mp found
    rw [content_eq] at absent
    have levelled : Lacks { reading with level := some (indentation line) } char := lacks
    exact levelled.openGroup fun member => absent (by simp [member])
  | started content current headerless found nonempty =>
    obtain ⟨before, after, content_eq, -, rfl, rfl⟩ := exists_of_entryOf? found
    rw [content_eq] at absent
    have levelled : Lacks { reading with level := some (indentation line) } char := lacks
    refine levelled.startValue ⟨proper.named, proper.stored, proper.current, proper.pointed⟩ current
      ?_ ?_
    · exact fun member =>
        absent (List.mem_append_left _ ((stripRight_isPrefix before).subset member))
    · exact fun member =>
        absent (List.mem_append_right _ (List.mem_cons_of_mem _ (strip_subset after member)))
  | noted number kept => exact lacks

end Reading

/-- A parsed key file holds no character that its text does not hold. -/
theorem lacks_of_parse {char : Char} {text : Text} {keyFile : KeyFile} (other : char ≠ '\n')
    (absent : char ∉ text) (parsed : parse text = .ok keyFile) : keyFile.Lacks char := by
  obtain ⟨final, run, rfl⟩ := parse_eq_ok parsed
  have comments : (collectComments text).Holds (char ∉ ·) := by
    apply holds_collectComments
    exact fun line member _ inner =>
      absent ((of_mem_lines member).2 (strip_subset line inner))
  obtain ⟨proper, lacks⟩ : final.Proper ∧ final.Lacks char := by
    apply Reading.steps_induction (fun reading => reading.Proper ∧ reading.Lacks char) _
      ⟨Reading.proper_empty, Reading.lacks_empty char⟩ run
    rintro reading next line member ⟨proper, lacks⟩ advance
    refine ⟨proper.advance (Reading.not_mem_strip_of_mem_terminatedLines member) advance, ?_⟩
    refine lacks.advance proper ?_ advance
    exact fun inner => not_mem_terminatedLines other absent member (strip_subset line inner)
  refine ⟨?_, ?_, comments.1, comments.2⟩
  · intro group member
    exact lacks.1 group (by simpa [groupNames] using member)
  · intro group key value found
    rw [value?_of_reading] at found
    obtain ⟨pieces, piece_found, rfl⟩ := Option.map_eq_some_iff.mp found
    have inner := lacks.2 group key pieces piece_found
    rw [joinValue_of_areStored (proper.stored group key pieces piece_found)]
    exact ⟨inner.1, not_mem_unlines other inner.2⟩

end KeyFile
end PackageRepos
