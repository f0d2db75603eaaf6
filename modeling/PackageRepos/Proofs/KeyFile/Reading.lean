import PackageRepos.KeyFile.Reader
import PackageRepos.Proofs.KeyFile.Line
import PackageRepos.Proofs.Text.Lines

/-!
# What reading keeps true

One line can do five things to a reading. From these follows the shape of everything that is read:
the names of groups, the keys, and the lines of every value.
-/

namespace PackageRepos
namespace KeyFile

open Text

/-- A line of a value after its first one. -/
structure IsFurtherLine (line : Text) : Prop where
  nonempty : line ≠ []
  trimmed : IsTrimmed line
  uncommented : isComment line = false
  single : '\n' ∉ line

/-- Lines that a reading collects for the value of a key. -/
def AreStored (key : Text) (lines : List Text) : Prop :=
  ∃ first further, lines = first :: further ∧ IsEntry key first ∧
    ∀ line ∈ further, IsFurtherLine line

namespace Reading

/-- The line is neither blank nor a comment. -/
structure IsContent (line : Text) : Prop where
  nonempty : strip line ≠ []
  uncommented : isComment (strip line) = false

/-- What one line can do to a reading. -/
inductive Advance (reading : Reading) (line : Text) : Reading → Prop
  | skipped (idle : ¬ IsContent line) : Advance reading line { reading with level := none }
  | continued {group key : Text} (content : IsContent line)
      (continues : reading.continued? (indentation line) = some (group, key)) :
      Advance reading line (reading.continueValue group key (strip line))
  | opened {group : Text} (content : IsContent line)
      (found : headerName? (strip line) = some group) :
      Advance reading line ({ reading with level := some (indentation line) }.openGroup group)
  | started {group key value : Text} (content : IsContent line)
      (current : reading.group = some group) (headerless : headerName? (strip line) = none)
      (found : entryOf? (strip line) = some (key, value)) (nonempty : key ≠ []) :
      Advance reading line
        ({ reading with level := some (indentation line) }.startValue group key value)
  | noted {key : Option Text} (number : Nat) (kept : key = none ∨ key = reading.key) :
      Advance reading line
        { { reading with level := some (indentation line) }.note number line with key }

theorem advance_of_start {reading next : Reading} {number : Nat} {line : Text}
    (content : IsContent line)
    (taken : { reading with level := some (indentation line) }.start number line (strip line) =
      .ok next) : Advance reading line next := by
  unfold start at taken
  split at taken
  · rename_i group _ found
    cases taken
    exact .opened content found
  · simp at taken
  · rename_i group headerless current
    split at taken
    · cases taken
      exact .noted number (.inl rfl)
    · rename_i key value nonempty found
      cases taken
      exact .started content current headerless found fun empty => nonempty (by simp [empty])
    · cases taken
      exact .noted number (.inr rfl)

/-- Every step is one of these. -/
theorem advance_of_step {reading next : Reading} {number : Nat} {line : Text}
    (taken : reading.step number line = .ok next) : Advance reading line next := by
  unfold step at taken
  simp only at taken
  split at taken
  · rename_i idle
    cases taken
    refine .skipped fun content => ?_
    simp [content.nonempty, content.uncommented] at idle
  · rename_i idle
    have content : IsContent line := by
      simp only [Bool.or_eq_true, not_or, Bool.not_eq_true] at idle
      exact ⟨by simpa using idle.1, idle.2⟩
    split at taken
    · rename_i continues
      cases taken
      exact .continued content continues
    · exact advance_of_start content taken

theorem steps_cons_eq_ok {reading final : Reading} {number : Nat} {line : Text} {rest : List Text}
    (run : reading.steps number (line :: rest) = .ok final) :
    ∃ next, reading.step number line = .ok next ∧ next.steps (number + 1) rest = .ok final := by
  unfold steps at run
  split at run
  · rename_i next taken
    exact ⟨next, taken, run⟩
  · simp at run

/-- What holds at the start and survives every line holds at the end. -/
theorem steps_induction (property : Reading → Prop) {lines : List Text}
    (preserved : ∀ reading next line, line ∈ lines → property reading → Advance reading line next →
      property next)
    {reading final : Reading} {number : Nat} (initial : property reading)
    (run : reading.steps number lines = .ok final) : property final := by
  induction lines generalizing reading number with
  | nil =>
    cases run
    exact initial
  | cons line rest ih =>
    obtain ⟨next, taken, later⟩ := steps_cons_eq_ok run
    apply ih _ _ later
    · exact fun reading next other member =>
        preserved reading next other (List.mem_cons_of_mem line member)
    · exact preserved reading next line List.mem_cons_self initial (advance_of_step taken)

theorem continued?_eq_some {reading : Reading} {indentation : Nat} {group key : Text}
    (continues : reading.continued? indentation = some (group, key)) :
    reading.group = some group ∧ reading.key = some key := by
  unfold continued? at continues
  split at continues
  · rename_i group_eq key_eq _
    split at continues
    · obtain ⟨rfl, rfl⟩ : _ = group ∧ _ = key := by simpa using continues
      exact ⟨group_eq, key_eq⟩
    · simp at continues
  · simp at continues

theorem entriesOf_insert (reading : Reading) (group other : Text)
    (entries : OrderedMap Text (List Text)) :
    ({ reading with groups := reading.groups.insert group entries } : Reading).entriesOf other =
      if other = group then entries else reading.entriesOf other := by
  simp only [entriesOf, OrderedMap.get?_insert]
  split <;> rfl

/-- Opening a group adds no entry. -/
@[simp]
theorem entriesOf_openGroup (reading : Reading) (group other : Text) :
    (reading.openGroup group).entriesOf other = reading.entriesOf other := by
  rw [show (reading.openGroup group).entriesOf other = ({ reading with
    groups := reading.groups.insert group (reading.entriesOf group) } : Reading).entriesOf other
    from rfl, entriesOf_insert]
  split
  · rename_i same
    rw [same]
  · rfl

theorem get?_entriesOf_startValue (reading : Reading) (group key value other asked : Text) :
    ((reading.startValue group key value).entriesOf other).get? asked =
      if other = group ∧ asked = key then some [value]
      else (reading.entriesOf other).get? asked := by
  rw [show (reading.startValue group key value).entriesOf other = ({ reading with
    groups := reading.groups.insert group ((reading.entriesOf group).insert key [value]) } :
      Reading).entriesOf other from rfl, entriesOf_insert]
  by_cases same : other = group
  · subst same
    simp [OrderedMap.get?_insert]
  · simp [same]

theorem get?_entriesOf_continueValue (reading : Reading) (group key line other asked : Text) :
    ((reading.continueValue group key line).entriesOf other).get? asked =
      if other = group ∧ asked = key then
        some (((reading.entriesOf group).get? key).getD [] ++ [line])
      else (reading.entriesOf other).get? asked := by
  rw [Reading.continueValue, entriesOf_insert]
  by_cases same : other = group
  · subst same
    simp [OrderedMap.alter, OrderedMap.get?_insert]
  · simp [same]

/-- A reading has only proper names, keys and values, and knows the key that can be continued. -/
structure Proper (reading : Reading) : Prop where
  named : ∀ group ∈ reading.groups.keys, IsGroupName group
  stored : ∀ group key lines, (reading.entriesOf group).get? key = some lines → AreStored key lines
  current : ∀ group, reading.group = some group → group ∈ reading.groups.keys
  pointed : ∀ group key, reading.group = some group → reading.key = some key →
    ∃ lines, (reading.entriesOf group).get? key = some lines

theorem proper_empty : Proper {} where
  named := by simp
  stored := by simp [entriesOf]
  current := by simp
  pointed := by simp

theorem Proper.continueValue {reading : Reading} (proper : reading.Proper) {group key line : Text}
    (current : reading.group = some group) (pointed : reading.key = some key)
    (further : IsFurtherLine line) : (reading.continueValue group key line).Proper := by
  obtain ⟨lines, found⟩ := proper.pointed group key current pointed
  have keys_eq : (reading.continueValue group key line).groups.keys = reading.groups.keys := by
    simp [Reading.continueValue, OrderedMap.keys_insert, proper.current group current]
  have added := reading.get?_entriesOf_continueValue group key line
  refine ⟨by rw [keys_eq]; exact proper.named, ?_, by rw [keys_eq]; exact proper.current, ?_⟩
  · intro other asked stored result
    rw [added] at result
    split at result
    · rename_i same
      obtain ⟨first, others, rfl, entry, proper_others⟩ := proper.stored group key lines found
      obtain rfl : first :: others ++ [line] = stored := by simpa [found] using result
      refine ⟨first, others ++ [line], by simp, same.2 ▸ entry, ?_⟩
      intro piece member
      rcases List.mem_append.mp member with old | new
      · exact proper_others piece old
      · exact List.mem_singleton.mp new ▸ further
    · exact proper.stored other asked stored result
  · intro other asked other_eq asked_eq
    rw [added]
    split
    · exact ⟨_, rfl⟩
    · exact proper.pointed other asked other_eq asked_eq

theorem Proper.openGroup {reading : Reading} (proper : reading.Proper) {group : Text}
    (named : IsGroupName group) : (reading.openGroup group).Proper := by
  refine ⟨?_, ?_, ?_, by simp [Reading.openGroup]⟩
  · intro other member
    rcases OrderedMap.mem_keys_insert.mp member with rfl | old
    · exact named
    · exact proper.named other old
  · intro other key lines found
    rw [entriesOf_openGroup] at found
    exact proper.stored other key lines found
  · intro other current
    obtain rfl : group = other := by simpa [Reading.openGroup] using current
    exact OrderedMap.mem_keys_insert.mpr (.inl rfl)

theorem Proper.startValue {reading : Reading} (proper : reading.Proper) {group key value : Text}
    (current : reading.group = some group) (entry : IsEntry key value) :
    (reading.startValue group key value).Proper := by
  have keys_eq : (reading.startValue group key value).groups.keys = reading.groups.keys := by
    simp [Reading.startValue, OrderedMap.keys_insert, proper.current group current]
  have added := reading.get?_entriesOf_startValue group key value
  refine ⟨by rw [keys_eq]; exact proper.named, ?_, by rw [keys_eq]; exact proper.current, ?_⟩
  · intro other asked lines result
    rw [added] at result
    split at result
    · rename_i same
      cases result
      exact ⟨value, [], rfl, same.2 ▸ entry, by simp⟩
    · exact proper.stored other asked lines result
  · intro other asked other_eq asked_eq
    obtain rfl : key = asked := by simpa [Reading.startValue] using asked_eq
    obtain rfl : group = other := by
      have same : reading.group = some other := other_eq
      simpa [current] using same
    rw [added]
    simp

/-- Every line keeps a reading proper. -/
theorem Proper.advance {reading next : Reading} {line : Text} (proper : reading.Proper)
    (single : '\n' ∉ strip line) (advance : Advance reading line next) : next.Proper := by
  have levelled : ∀ level, Proper { reading with level } := fun level =>
    ⟨proper.named, proper.stored, proper.current, proper.pointed⟩
  cases advance with
  | skipped => exact levelled none
  | continued content continues =>
    obtain ⟨current, pointed⟩ := continued?_eq_some continues
    exact proper.continueValue current pointed
      ⟨content.nonempty, isTrimmed_strip line, content.uncommented, single⟩
  | opened content found => exact (levelled _).openGroup (isGroupName_of_headerName? single found)
  | started content current headerless found nonempty =>
    exact (levelled _).startValue current (isEntry_of_entryOf? (isTrimmed_strip line) single
      content.uncommented headerless nonempty found)
  | noted number kept =>
    refine ⟨proper.named, proper.stored, proper.current, ?_⟩
    intro group key current pointed
    rcases kept with rfl | rfl
    · simp at pointed
    · exact proper.pointed group key current pointed

/-- Lines of a text hold no newline once they are trimmed. -/
theorem not_mem_strip_of_mem_terminatedLines {text line : Text}
    (member : line ∈ terminatedLines text) : '\n' ∉ strip line := by
  rcases of_mem_terminatedLines member with found | ⟨piece, found, rfl⟩
  · exact fun newline => (of_mem_lines found).1 (strip_subset line newline)
  · rw [terminated, strip_append_blank (by simp [isBlank])]
    exact fun newline => (of_mem_lines found).1 (strip_subset piece newline)

theorem proper_of_steps {text : Text} {number : Nat} {final : Reading}
    (run : Reading.steps {} number (terminatedLines text) = .ok final) : final.Proper := by
  apply steps_induction Proper _ proper_empty run
  intro reading next line member proper advance
  exact proper.advance (not_mem_strip_of_mem_terminatedLines member) advance

end Reading
end KeyFile
end PackageRepos
