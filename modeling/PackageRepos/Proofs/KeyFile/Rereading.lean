import PackageRepos.Proofs.KeyFile.Printing

/-!
# Printed groups read back

Reading the lines of a printed key file, one part after the other, yields its groups again, provided
that every value stands on one line.
-/

namespace PackageRepos
namespace KeyFile

open Text

namespace Reading

theorem steps_append {reading next : Reading} {number : Nat} {front : List Text}
    (run : reading.steps number front = .ok next) (back : List Text) :
    reading.steps number (front ++ back) = next.steps (number + front.length) back := by
  induction front generalizing reading number with
  | nil =>
    cases run
    rfl
  | cons line rest ih =>
    obtain ⟨between, taken, later⟩ := steps_cons_eq_ok run
    simp only [List.cons_append, steps, taken]
    rw [ih later, List.length_cons]
    congr 1
    omega

/-! ## Single lines -/

theorem strip_terminated (line : Text) : strip (terminated line) = strip line :=
  strip_append_blank (by simp [isBlank]) line

/-- A line without indentation continues nothing. -/
theorem continued?_zero (reading : Reading) : reading.continued? 0 = none := by
  unfold continued?
  split <;> simp

theorem step_blank (reading : Reading) (number : Nat) :
    reading.step number (terminated []) = .ok { reading with level := none } := by
  have empty : strip (terminated []) = [] := by decide
  simp [step, empty]

theorem step_comment (reading : Reading) (number : Nat) {line : Text}
    (comment : IsCommentLine line) :
    reading.step number (terminated line) = .ok { reading with level := none } := by
  have content : strip (terminated line) = line := by
    rw [strip_terminated, strip_of_isTrimmed comment.trimmed]
  simp [step, content, comment.marked]

theorem indentation_terminated {line : Text} (flush : IsFlush line) (nonempty : strip line ≠ []) :
    indentation (terminated line) = 0 := by
  have line_nonempty : line ≠ [] := by
    rintro rfl
    exact nonempty (by decide)
  exact indentation_of_isFlush (flush.append line_nonempty _)

/-- A line that is neither blank nor a comment and is not indented starts something. -/
theorem step_of_unindented (reading : Reading) (number : Nat) {line : Text}
    (unindented : indentation line = 0) (nonempty : (strip line).isEmpty = false)
    (uncommented : isComment (strip line) = false) :
    reading.step number line =
      { reading with level := some 0 }.start number line (strip line) := by
  simp [step, nonempty, uncommented, unindented, continued?_zero]

theorem step_of_isFlush (reading : Reading) (number : Nat) {line : Text} (flush : IsFlush line)
    (nonempty : (strip line).isEmpty = false) (uncommented : isComment (strip line) = false) :
    reading.step number (terminated line) =
      { reading with level := some 0 }.start number (terminated line) (strip line) := by
  have unindented := indentation_terminated flush (by simpa using nonempty)
  rw [← strip_terminated line] at nonempty uncommented ⊢
  exact reading.step_of_unindented number unindented nonempty uncommented

theorem step_header (reading : Reading) (number : Nat) {group : Text} (named : IsGroupName group) :
    reading.step number (terminated (headerLine group)) =
      .ok ({ reading with level := some 0 }.openGroup group) := by
  have trimmed := isTrimmed_headerLine group
  rw [step_of_isFlush reading number trimmed.1, strip_of_isTrimmed trimmed]
  · simp [start, headerName?_headerLine named]
  · rw [strip_of_isTrimmed trimmed]
    rfl
  · simp [strip_of_isTrimmed trimmed]

theorem step_entry {reading : Reading} (number : Nat) {group key value : Text}
    (current : reading.group = some group) (entry : IsEntry key value) :
    reading.step number (terminated (entryLine key value)) =
      .ok ({ reading with level := some 0 }.startValue group key value) := by
  obtain ⟨nonempty, uncommented, headerless, found, -⟩ := entry.reads_back
  obtain ⟨first, others, rfl⟩ := List.exists_cons_of_ne_nil entry.nonempty
  rw [step_of_isFlush reading number entry.isFlush_entryLine nonempty uncommented]
  simp [start, headerless, current, found]

/-- A blank line at the end only ends the value before it. -/
theorem steps_concat_blank (reading : Reading) (number : Nat) (rows : List Text) :
    reading.steps number (rows ++ [terminated []]) =
      match reading.steps number rows with
      | .ok final => .ok { final with level := none }
      | .error fault => .error fault := by
  induction rows generalizing reading number with
  | nil => simp [steps, step_blank]
  | cons line rest ih =>
    rw [List.cons_append, steps, steps]
    split
    · exact ih _ _
    · rfl

/-! ## Parts -/

/-- Reading the lines succeeds, and these are the groups and the group it leaves. -/
def Reads (reading : Reading) (pieces : List Text) (group : Option Text)
    (groups : OrderedMap Text (OrderedMap Text (List Text))) : Prop :=
  ∀ number, ∃ final, reading.steps number (pieces.map terminated) = .ok final ∧
    final.groups = groups ∧ final.group = group ∧ final.faults = reading.faults

theorem reads_nil (reading : Reading) : reading.Reads [] reading.group reading.groups :=
  fun _ => ⟨reading, rfl, rfl, rfl, rfl⟩

/-- Lines are read as far as the first part goes, and then from there. -/
theorem Reads.append {reading : Reading} {front back : List Text} {middle last : Option Text}
    {between groups : OrderedMap Text (OrderedMap Text (List Text))}
    (first : reading.Reads front middle between)
    (second : ∀ next : Reading, next.groups = between → next.group = middle →
      next.Reads back last groups) : reading.Reads (front ++ back) last groups := by
  intro number
  obtain ⟨next, next_run, next_groups, next_group, next_faults⟩ := first number
  obtain ⟨final, run, final_groups, final_group, final_faults⟩ :=
    second next next_groups next_group (number + (front.map terminated).length)
  refine ⟨final, ?_, final_groups, final_group, final_faults.trans next_faults⟩
  rw [List.map_append, steps_append next_run]
  exact run

theorem reads_of_step {reading : Reading} {line : Text} {group : Option Text}
    {groups : OrderedMap Text (OrderedMap Text (List Text))}
    (taken : ∀ number, ∃ final, reading.step number (terminated line) = .ok final ∧
      final.groups = groups ∧ final.group = group ∧ final.faults = reading.faults) :
    reading.Reads [line] group groups := by
  intro number
  obtain ⟨final, step_eq, same⟩ := taken number
  exact ⟨final, by simp [steps, step_eq], same⟩

theorem reads_blank (reading : Reading) : reading.Reads [[]] reading.group reading.groups :=
  reads_of_step fun number => ⟨_, reading.step_blank number, rfl, rfl, rfl⟩

theorem reads_comments (reading : Reading) {comments : List Text}
    (proper : ∀ line ∈ comments, IsCommentLine line) :
    reading.Reads comments reading.group reading.groups := by
  induction comments generalizing reading with
  | nil => exact reading.reads_nil
  | cons line rest ih =>
    have first : reading.Reads [line] reading.group reading.groups :=
      reads_of_step fun number =>
        ⟨_, reading.step_comment number (proper line List.mem_cons_self), rfl, rfl, rfl⟩
    refine first.append fun next groups_eq group_eq => ?_
    have later := ih next fun other member => proper other (List.mem_cons_of_mem line member)
    rwa [groups_eq, group_eq] at later

theorem reads_header (reading : Reading) {group : Text} (named : IsGroupName group) :
    reading.Reads [headerLine group] (some group)
      (reading.groups.insert group ((reading.groups.get? group).getD ∅)) :=
  reads_of_step fun number => ⟨_, reading.step_header number named, rfl, rfl, rfl⟩

theorem reads_entry {reading : Reading} {group key value : Text}
    (current : reading.group = some group) (entry : IsEntry key value) :
    reading.Reads [entryLine key value] (some group)
      (reading.groups.insert group
        (((reading.groups.get? group).getD ∅).insert key [value])) :=
  reads_of_step fun number => ⟨_, step_entry number current entry, rfl, current, rfl⟩

end Reading

/-! ## Groups -/

theorem groupLines_eq (keyFile : KeyFile) (group : Text) :
    keyFile.groupLines group = keyFile.commentsAt { group } ++
      ([headerLine group] ++
        ((keyFile.keysOf group).flatMap (keyFile.keyLines group) ++ [[]])) := by
  simp [groupLines]

/-- The entries of a group, with every value as its only line. -/
def singleLines (keyFile : KeyFile) (group : Text) : OrderedMap Text (List Text) :=
  ((keyFile.groups.get? group).getD ∅).mapValues fun value => [value]

section Groups

variable {keyFile : KeyFile} (proper : keyFile.Proper) (single : keyFile.SingleLined)
include proper single

theorem reads_keyLines {reading : Reading} {group key : Text} (member : key ∈ keyFile.keysOf group)
    (current : reading.group = some group) :
    reading.Reads (keyFile.keyLines group key) (some group)
      (reading.groups.insert group
        (((reading.groups.get? group).getD ∅).insert key
          [(keyFile.value? group key).getD []])) := by
  obtain ⟨value, found⟩ := mem_keysOf_iff.mp member
  have entry : IsEntry key value :=
    (proper.stored group key value found).isEntry (single group key value found)
  have comments := reading.reads_comments (proper.commented { group, key := some key })
  refine comments.append fun next groups_eq group_eq => ?_
  rw [found, Option.getD_some, ← groups_eq]
  exact Reading.reads_entry (group_eq.trans current) entry

/-- Printed entries are read one after the other into their group. -/
theorem reads_keys {reading : Reading} {group : Text} {keys : List Text}
    {entries : OrderedMap Text (List Text)} (members : ∀ key ∈ keys, key ∈ keyFile.keysOf group)
    (current : reading.group = some group) (declared : reading.groups.get? group = some entries) :
    reading.Reads (keys.flatMap (keyFile.keyLines group)) (some group)
      (reading.groups.insert group (entries.insertAll
        (keys.map fun key => (key, [(keyFile.value? group key).getD []])))) := by
  induction keys generalizing reading entries with
  | nil =>
    have unchanged : reading.groups.insert group entries = reading.groups :=
      OrderedMap.insert_eq_self declared
    rw [← current]
    simpa [OrderedMap.insertAll, unchanged] using reading.reads_nil
  | cons key rest ih =>
    have first := reads_keyLines proper single (members key List.mem_cons_self) current
    rw [declared, Option.getD_some] at first
    refine first.append fun next groups_eq group_eq => ?_
    have later := ih (fun other member => members other (List.mem_cons_of_mem key member)) group_eq
      (by rw [groups_eq, OrderedMap.get?_insert_self])
    rwa [groups_eq, OrderedMap.insert_insert_self] at later

/-- A printed group is read as its entries, provided that it has not been read before. -/
theorem reads_groupLines {reading : Reading} {group : Text} (member : group ∈ keyFile.groupNames)
    (fresh : reading.groups.get? group = none) :
    reading.Reads (keyFile.groupLines group) (some group)
      (reading.groups.insert group (keyFile.singleLines group)) := by
  have entries_eq : OrderedMap.insertAll ∅
      ((keyFile.keysOf group).map fun key => (key, [(keyFile.value? group key).getD []])) =
      keyFile.singleLines group := by
    rw [← (keyFile.singleLines group).ofList_toList, OrderedMap.ofList,
      OrderedMap.toList_eq_map_keys fun key => [(keyFile.value? group key).getD []]]
    · simp [singleLines, keysOf_of_unshared proper.unshared]
    · intro key pieces found
      rw [value?_of_unshared proper.unshared]
      cases declared : keyFile.groups.get? group with
      | none => simp [singleLines, declared] at found
      | some entries =>
        obtain ⟨value, value_found, rfl⟩ : ∃ value, entries.get? key = some value ∧
            [value] = pieces := by
          simpa [singleLines, declared] using found
        simp [value_found]
  rw [groupLines_eq]
  refine (reading.reads_comments (proper.commented { group })).append fun before groups_eq _ => ?_
  refine (before.reads_header (proper.named group member)).append fun opened opened_eq current => ?_
  rw [groups_eq, fresh, Option.getD_none] at opened_eq
  have keys := reads_keys proper single (fun _ => id) current
    (by rw [opened_eq, OrderedMap.get?_insert_self])
  refine keys.append fun final final_eq final_group => ?_
  have blank := final.reads_blank
  rwa [final_eq, final_group, opened_eq, OrderedMap.insert_insert_self, entries_eq] at blank

/-- Printed groups are read one after the other. -/
theorem reads_groups (reading : Reading) {names : List Text}
    (members : ∀ group ∈ names, group ∈ keyFile.groupNames)
    (fresh : (reading.groups.keys ++ names).Nodup) :
    reading.Reads (names.flatMap keyFile.groupLines) (names.getLast?.or reading.group)
      (reading.groups.insertAll (names.map fun group => (group, keyFile.singleLines group))) := by
  induction names generalizing reading with
  | nil => exact reading.reads_nil
  | cons group rest ih =>
    have missing : group ∉ reading.groups.keys := fun member =>
      (List.nodup_append.mp fresh).2.2 group member group List.mem_cons_self rfl
    have first := reads_groupLines proper single (members group List.mem_cons_self)
      (OrderedMap.get?_eq_none_iff.mpr missing)
    have last_eq : (group :: rest).getLast?.or reading.group = rest.getLast?.or (some group) := by
      rw [List.getLast?_cons]
      cases rest.getLast? <;> rfl
    rw [last_eq]
    refine first.append fun next groups_eq group_eq => ?_
    have fresh_later : (next.groups.keys ++ rest).Nodup := by
      rw [groups_eq, OrderedMap.keys_insert_of_not_mem _ _ missing]
      simpa using fresh
    have members_later : ∀ other ∈ rest, other ∈ keyFile.groupNames :=
      fun other member => members other (List.mem_cons_of_mem group member)
    have later := ih next members_later fresh_later
    rwa [groups_eq, group_eq] at later

/-- Reading all printed lines yields the groups with their entries. -/
theorem reads_bodyLines : Reading.Reads {} keyFile.bodyLines keyFile.groupNames.getLast?
    (keyFile.groups.mapValues fun entries => entries.mapValues fun value => [value]) := by
  have groups := reads_groups proper single {} (fun _ => id)
    (by simpa [groupNames] using keyFile.groups.keys_nodup)
  have groups_eq : OrderedMap.insertAll ∅
      (keyFile.groupNames.map fun group => (group, keyFile.singleLines group)) =
      keyFile.groups.mapValues fun entries => entries.mapValues fun value => [value] := by
    rw [← (OrderedMap.mapValues _ keyFile.groups).ofList_toList, OrderedMap.ofList,
      OrderedMap.toList_eq_map_keys keyFile.singleLines, OrderedMap.keys_mapValues]
    · rfl
    · intro group entries found
      rw [OrderedMap.get?_mapValues] at found
      obtain ⟨own, own_found, rfl⟩ := Option.map_eq_some_iff.mp found
      simp [singleLines, own_found]
  rw [groups_eq, Option.or_none] at groups
  refine groups.append fun next next_groups next_group => ?_
  have trailing := next.reads_comments proper.trailed
  rwa [next_groups, next_group] at trailing

/-- The groups of a printed key file are read again. -/
theorem readGroups_print : readGroups keyFile.print = .ok keyFile.groups := by
  obtain ⟨rows, rows_eq, body_eq⟩ := lines_print keyFile
  rw [proper.flatMap_lines_bodyLines single] at body_eq
  obtain ⟨final, run, groups_eq, -, unfaulted⟩ := reads_bodyLines proper single 1
  have joined : final.groups.mapValues (·.mapValues Reading.joinValue) = keyFile.groups := by
    rw [groups_eq, OrderedMap.mapValues_mapValues]
    apply OrderedMap.mapValues_eq_self
    intro group entries declared
    rw [Function.comp_apply, OrderedMap.mapValues_mapValues]
    apply OrderedMap.mapValues_eq_self
    intro key value found
    have shown : keyFile.value? group key = some value := by
      simp [value?_of_unshared proper.unshared, declared, found]
    have entry := (proper.stored group key value shown).isEntry (single group key value shown)
    simp [Reading.joinValue, stripRight_of_isFlush_reverse entry.value_trimmed.2]
  have finished : final.finish = .ok keyFile.groups := by
    simp [Reading.finish, unfaulted, joined]
  rw [readGroups, terminatedLines_of_lines rows_eq]
  rcases body_eq with same | blank
  · rw [← same, run]
    exact finished
  · rw [blank, List.map_append, List.map_singleton, Reading.steps_concat_blank] at run
    cases run_before : ({} : Reading).steps 1 (rows.map terminated) with
    | error fault => simp [run_before] at run
    | ok before =>
      rw [run_before] at run
      cases run
      exact finished

end Groups

end KeyFile
end PackageRepos
