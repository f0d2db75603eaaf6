import PackageRepos.Proofs.KeyFile.Rereading

/-!
# Texts one after the other

A header that is not indented forgets what was read before it, but for the groups. So a text that
opens with such a header is read after another text as it is read alone, line by line, and its
entries come to lie over those of the other text.
-/

namespace PackageRepos
namespace KeyFile

open Text

/-! ## Entries over entries -/

section Covers

variable {κ ν : Type} [DecidableEq κ]

/-- The keys of the first list, then those that only the second one has. -/
def overlaid (below above : List κ) : List κ := below ++ above.filter (· ∉ below)

theorem mem_overlaid {below above : List κ} {key : κ} :
    key ∈ overlaid below above ↔ key ∈ below ∨ key ∈ above := by
  by_cases known : key ∈ below <;> simp [overlaid, known]

/-- A key that is added to the second list unless it has it is added to both lists together unless
they have it. -/
theorem overlaid_add (below above : List κ) (key : κ) :
    overlaid below (if key ∈ above then above else above ++ [key]) =
      if key ∈ overlaid below above then overlaid below above
      else overlaid below above ++ [key] := by
  by_cases upper : key ∈ above
  · rw [if_pos upper, if_pos (mem_overlaid.mpr (.inr upper))]
  · by_cases lower : key ∈ below
    · rw [if_neg upper, if_pos (mem_overlaid.mpr (.inl lower))]
      simp [overlaid, lower]
    · have missing : key ∉ overlaid below above := by simp [mem_overlaid, lower, upper]
      rw [if_neg upper, if_neg missing]
      simp [overlaid, lower]

/-- The third map shows the entries of the second one over those of the first. -/
structure Covers (below above whole : OrderedMap κ ν) : Prop where
  keys : whole.keys = overlaid below.keys above.keys
  get? : ∀ key, whole.get? key = (above.get? key).or (below.get? key)

theorem Covers.insert {below above whole : OrderedMap κ ν} (covers : Covers below above whole)
    (key : κ) (value : ν) :
    Covers below (above.insert key value) (whole.insert key value) where
  keys := by rw [OrderedMap.keys_insert, OrderedMap.keys_insert, overlaid_add, covers.keys]
  get? other := by
    rw [OrderedMap.get?_insert, OrderedMap.get?_insert, covers.get?]
    split <;> rfl

theorem Covers.mapValues {μ : Type} {below above whole : OrderedMap κ ν}
    (covers : Covers below above whole) (f : ν → μ) :
    Covers (below.mapValues f) (above.mapValues f) (whole.mapValues f) where
  keys := by simpa using covers.keys
  get? key := by
    rw [OrderedMap.get?_mapValues, OrderedMap.get?_mapValues, OrderedMap.get?_mapValues,
      covers.get?]
    cases above.get? key <;> rfl

end Covers

namespace Reading

/-! ## Readings over readings -/

/-- What was read in the whole text is what was read in its second part alone, over what had been
read in its first part. -/
structure Overlay (base alone whole : Reading) : Prop where
  groups : whole.groups.keys = overlaid base.groups.keys alone.groups.keys
  entries : ∀ group, Covers (base.entriesOf group) (alone.entriesOf group) (whole.entriesOf group)
  faultless : whole.faults = [] ↔ base.faults = [] ∧ alone.faults = []

/-- Both readings take the next line in the same way. -/
structure Alongside (alone whole : Reading) : Prop where
  group : whole.group = alone.group
  key : whole.key = alone.key
  level : whole.level = alone.level

/-- Nothing lies over what has been read before the second part begins. -/
theorem overlay_empty (base : Reading) : Overlay base {} base where
  groups := by simp [overlaid]
  entries group := ⟨by simp [overlaid, entriesOf], by simp [entriesOf]⟩
  faultless := by simp

theorem Alongside.continued? {alone whole : Reading} (alongside : Alongside alone whole)
    (indentation : Nat) : whole.continued? indentation = alone.continued? indentation := by
  rw [Reading.continued?, alongside.group, alongside.key, alongside.level, Reading.continued?]

section Overlay

variable {base alone whole : Reading} (overlay : Overlay base alone whole)
include overlay

theorem Overlay.insert {group : Text} {own shown : OrderedMap Text (List Text)}
    (covers : Covers (base.entriesOf group) own shown) :
    Overlay base { alone with groups := alone.groups.insert group own }
      { whole with groups := whole.groups.insert group shown } where
  groups := by
    rw [OrderedMap.keys_insert, OrderedMap.keys_insert, overlaid_add, overlay.groups]
  entries other := by
    rw [entriesOf_insert, entriesOf_insert]
    split
    · rename_i same
      exact same ▸ covers
    · exact overlay.entries other
  faultless := overlay.faultless

theorem Overlay.openGroup (group : Text) :
    Overlay base (alone.openGroup group) (whole.openGroup group) :=
  let inserted := overlay.insert (overlay.entries group)
  ⟨inserted.groups, inserted.entries, inserted.faultless⟩

theorem Overlay.startValue (group key value : Text) :
    Overlay base (alone.startValue group key value) (whole.startValue group key value) :=
  let inserted := overlay.insert ((overlay.entries group).insert key [value])
  ⟨inserted.groups, inserted.entries, inserted.faultless⟩

/-- A value that is continued was started in the second part. -/
theorem Overlay.continueValue {group key : Text} {lines : List Text}
    (found : (alone.entriesOf group).get? key = some lines) (line : Text) :
    Overlay base (alone.continueValue group key line) (whole.continueValue group key line) := by
  have shown : (whole.entriesOf group).get? key = some lines := by
    rw [(overlay.entries group).get?, found, Option.some_or]
  have inserted := overlay.insert ((overlay.entries group).insert key (lines ++ [line]))
  simp only [Reading.continueValue, OrderedMap.alter, found, shown, Option.getD_some]
  exact inserted

theorem Overlay.note (number other : Nat) (line : Text) :
    Overlay base (alone.note number line) (whole.note other line) :=
  ⟨overlay.groups, overlay.entries, by simp [Reading.note]⟩

theorem Overlay.relevel (level : Option Nat) :
    Overlay base { alone with level } { whole with level } :=
  ⟨overlay.groups, overlay.entries, overlay.faultless⟩

end Overlay

/-! ## Reading alone and after another text -/

/-- Both outcomes are faults, or both are readings that are related. -/
def Mirrors (related : Reading → Reading → Prop) :
    Except SyntaxFault Reading → Except SyntaxFault Reading → Prop
  | .ok alone, .ok whole => related alone whole
  | .error _, .error _ => True
  | _, _ => False

theorem Mirrors.exists_left {related : Reading → Reading → Prop}
    {outcome : Except SyntaxFault Reading} {whole : Reading}
    (mirrors : Mirrors related outcome (.ok whole)) :
    ∃ alone, outcome = .ok alone ∧ related alone whole := by
  cases outcome with
  | ok alone => exact ⟨alone, rfl, mirrors⟩
  | error fault => exact mirrors.elim

theorem Mirrors.exists_right {related : Reading → Reading → Prop}
    {outcome : Except SyntaxFault Reading} {alone : Reading}
    (mirrors : Mirrors related (.ok alone) outcome) :
    ∃ whole, outcome = .ok whole ∧ related alone whole := by
  cases outcome with
  | ok whole => exact ⟨whole, rfl, mirrors⟩
  | error fault => exact mirrors.elim

theorem mirrors_start {base alone whole : Reading} (overlay : Overlay base alone whole)
    (alongside : Alongside alone whole) (number other : Nat) (line content : Text) :
    Mirrors (fun next later => Overlay base next later ∧ Alongside next later)
      (alone.start number line content) (whole.start other line content) := by
  unfold start
  rw [alongside.group]
  split
  · rename_i group _
    exact ⟨overlay.openGroup group, rfl, rfl, alongside.level⟩
  · trivial
  · rename_i group _ current
    split
    · have noted := overlay.note number other line
      exact ⟨⟨noted.groups, noted.entries, noted.faultless⟩, alongside.group, rfl,
        alongside.level⟩
    · rename_i key value _ _
      exact ⟨overlay.startValue group key value, alongside.group, rfl, alongside.level⟩
    · exact ⟨overlay.note number other line, alongside.group, alongside.key, alongside.level⟩

/-- One line does the same to both readings. -/
theorem mirrors_step {base alone whole : Reading} (overlay : Overlay base alone whole)
    (alongside : Alongside alone whole) (proper : alone.Proper) (number other : Nat) (line : Text) :
    Mirrors (fun next later => Overlay base next later ∧ Alongside next later)
      (alone.step number line) (whole.step other line) := by
  unfold step
  simp only
  by_cases idle : ((strip line).isEmpty || isComment (strip line)) = true
  · rw [if_pos idle, if_pos idle]
    exact ⟨overlay.relevel none, alongside.group, alongside.key, rfl⟩
  · rw [if_neg idle, if_neg idle, alongside.continued?]
    cases continues : alone.continued? (indentation line) with
    | some place =>
      obtain ⟨group, key⟩ := place
      obtain ⟨current, pointed⟩ := continued?_eq_some continues
      obtain ⟨lines, found⟩ := proper.pointed group key current pointed
      exact ⟨overlay.continueValue found (strip line), alongside.group, alongside.key,
        alongside.level⟩
    | none =>
      exact mirrors_start (overlay.relevel (some (indentation line)))
        ⟨alongside.group, alongside.key, rfl⟩ number other line (strip line)

/-- Readings that take lines in the same way stay related over any number of lines. -/
theorem mirrors_steps {base alone whole : Reading} (overlay : Overlay base alone whole)
    (alongside : Alongside alone whole) (proper : alone.Proper) {lines : List Text}
    (single : ∀ line ∈ lines, '\n' ∉ strip line) (number other : Nat) :
    Mirrors (Overlay base) (alone.steps number lines) (whole.steps other lines) := by
  induction lines generalizing alone whole number other with
  | nil => exact overlay
  | cons line rest ih =>
    have taken := mirrors_step overlay alongside proper number other line
    cases alone_step : alone.step number line with
    | error fault =>
      cases whole_step : whole.step other line with
      | error later => simp [steps, alone_step, whole_step, Mirrors]
      | ok later => simp [alone_step, whole_step, Mirrors] at taken
    | ok next =>
      cases whole_step : whole.step other line with
      | error fault => simp [alone_step, whole_step, Mirrors] at taken
      | ok later =>
        rw [alone_step, whole_step] at taken
        have next_proper :=
          proper.advance (single line List.mem_cons_self) (advance_of_step alone_step)
        simp only [steps, alone_step, whole_step]
        exact ih taken.1 taken.2 next_proper
          (fun row member => single row (List.mem_cons_of_mem line member)) _ _

/-! ## Up to the first header -/

/-- The line is neither blank nor a comment. -/
def isContent (line : Text) : Bool := !((strip line).isEmpty || isComment (strip line))

/-- The first line that is neither blank nor a comment, if there is one, is a header at the start of
its line. -/
def OpensWithHeader (lines : List Text) : Prop :=
  ∀ line ∈ lines.find? isContent, IsFlush line ∧ ∃ group, headerName? (strip line) = some group

/-- A line that is blank or a comment only ends the value before it. -/
theorem step_of_idle (reading : Reading) (number : Nat) {line : Text}
    (idle : isContent line = false) :
    reading.step number line = .ok { reading with level := none } := by
  have skipped : ((strip line).isEmpty || isComment (strip line)) = true := by
    simpa only [isContent, Bool.not_eq_false'] using idle
  simp only [step, skipped, if_true]

/-- A header at the start of its line is read in every reading. -/
theorem step_of_header (reading : Reading) (number : Nat) {line group : Text}
    (content : isContent line = true) (flush : IsFlush line)
    (found : headerName? (strip line) = some group) :
    reading.step number line = .ok ({ reading with level := some 0 }.openGroup group) := by
  have kept : ((strip line).isEmpty || isComment (strip line)) = false := by
    simpa only [isContent, Bool.not_eq_true'] using content
  simp only [step, kept, Bool.false_eq_true, if_false, indentation_of_isFlush flush,
    continued?_zero, start, found]

/-- The lines of the second part are read after the first one as they are read alone. -/
theorem mirrors_steps_of_opensWithHeader {base alone whole : Reading}
    (overlay : Overlay base alone whole) (proper : alone.Proper) {lines : List Text}
    (opens : OpensWithHeader lines) (single : ∀ line ∈ lines, '\n' ∉ strip line)
    (number other : Nat) :
    Mirrors (Overlay base) (alone.steps number lines) (whole.steps other lines) := by
  induction lines generalizing alone whole number other with
  | nil => exact overlay
  | cons line rest ih =>
    have single_rest : ∀ row ∈ rest, '\n' ∉ strip row :=
      fun row member => single row (List.mem_cons_of_mem line member)
    by_cases content : isContent line = true
    · obtain ⟨flush, group, found⟩ := opens line (by simp [content])
      have taken := step_of_header alone number content flush found
      rw [steps, steps, taken, step_of_header whole other content flush found]
      exact mirrors_steps ((overlay.relevel (some 0)).openGroup group) ⟨rfl, rfl, rfl⟩
        (proper.advance (single line List.mem_cons_self) (advance_of_step taken)) single_rest _ _
    · have idle : isContent line = false := by simpa using content
      have taken := step_of_idle alone number idle
      rw [steps, steps, taken, step_of_idle whole other idle]
      refine ih (overlay.relevel none)
        (proper.advance (single line List.mem_cons_self) (advance_of_step taken)) ?_ single_rest _ _
      intro row first
      exact opens row (by simpa [idle] using first)

end Reading

/-! ## Lines of two texts -/

/-- The text is empty or ends with a newline. -/
def IsEnded (text : Text) : Prop := text = [] ∨ text.getLast? = some '\n'

/-- The lines of a text that is ended are followed by those of the next text. -/
theorem terminatedLines_append {front : Text} (ended : IsEnded front) (back : Text) :
    terminatedLines (front ++ back) = terminatedLines front ++ terminatedLines back := by
  rcases ended with rfl | last
  · rfl
  · obtain ⟨start, rfl⟩ := List.getLast?_eq_some_iff.mp last
    have front_lines : lines (start ++ ['\n']) = lines start ++ [[]] := by
      rw [lines_append_newline]
      rfl
    have all_lines : lines (start ++ ['\n'] ++ back) = lines start ++ lines back := by
      rw [List.append_assoc, List.singleton_append, lines_append_newline]
    rw [terminatedLines_of_lines front_lines, terminatedLines, all_lines, terminatedLines,
      terminate_append _ (lines_ne_nil back)]

namespace Reading

/-- The newline that ends a line does not matter to its header. -/
theorem OpensWithHeader.terminate {pieces : List Text} (opens : OpensWithHeader pieces) :
    OpensWithHeader (terminatedLines.terminate pieces) := by
  induction pieces with
  | nil => exact opens
  | cons piece rest ih =>
    have same_content : isContent (terminated piece) = isContent piece := by
      rw [isContent, strip_terminated, isContent]
    cases rest with
    | nil =>
      rw [terminatedLines.terminate]
      split
      · simp [OpensWithHeader]
      · exact opens
    | cons next others =>
      rw [terminatedLines.terminate, ← terminated]
      · by_cases content : isContent piece = true
        · obtain ⟨flush, group, found⟩ := opens piece (by simp [content])
          have nonempty : piece ≠ [] := by
            rintro rfl
            simp [isContent, strip_of_isTrimmed] at content
          intro line first
          obtain rfl : terminated piece = line := by simpa [same_content, content] using first
          exact ⟨flush.append nonempty _, group, by rwa [strip_terminated]⟩
        · have idle : isContent piece = false := by simpa using content
          have later := ih fun line first => opens line (by simpa [idle] using first)
          intro line first
          exact later line (by simpa [same_content, idle] using first)
      · simp

theorem steps_append_eq_ok {reading final : Reading} {number : Nat} {front back : List Text} :
    reading.steps number (front ++ back) = .ok final ↔
      ∃ next, reading.steps number front = .ok next ∧
        next.steps (number + front.length) back = .ok final := by
  constructor
  · intro run
    induction front generalizing reading number with
    | nil => exact ⟨reading, rfl, run⟩
    | cons line rest ih =>
      obtain ⟨between, taken, later⟩ := steps_cons_eq_ok run
      obtain ⟨next, first, second⟩ := ih later
      refine ⟨next, by rw [steps, taken]; exact first, ?_⟩
      rwa [List.length_cons, Nat.add_comm rest.length, ← Nat.add_assoc]
  · rintro ⟨next, first, second⟩
    rw [steps_append first, second]

end Reading

/-! ## Key files over key files -/

/-- The key file of a reading, with comments. -/
def Reading.keyFile (reading : Reading) (collecting : Collecting) : KeyFile where
  groups := reading.groups.mapValues (·.mapValues joinValue)
  comments := collecting.comments
  trailing := collecting.pending

theorem keysOf_of_reading (reading : Reading) (collecting : Collecting) (group : Text) :
    (reading.keyFile collecting).keysOf group = (reading.entriesOf group).keys := by
  rw [keysOf_of_unshared rfl, Reading.keyFile, OrderedMap.get?_mapValues, Reading.entriesOf]
  cases reading.groups.get? group <;> simp

/-- A text is parsed exactly when all of its lines can be read. -/
theorem parse_eq_ok_iff {text : Text} {keyFile : KeyFile} :
    parse text = .ok keyFile ↔
      ∃ final : Reading, Reading.steps {} 1 (terminatedLines text) = .ok final ∧
        final.faults = [] ∧ keyFile = final.keyFile (collectComments text) := by
  constructor
  · exact exists_unfaulted_of_parse
  · rintro ⟨final, run, unfaulted, rfl⟩
    simp [parse, readGroups, run, Reading.finish, unfaulted, Reading.keyFile]

/-- The key file shows the entries of the second one over those of the first one: the groups of the
first one come first, then those that only the second one has, and so do the keys of each group; a
value is the one in the second key file, if that has one. -/
structure Merges (first second keyFile : KeyFile) : Prop where
  groupNames : keyFile.groupNames = overlaid first.groupNames second.groupNames
  keysOf : ∀ group, keyFile.keysOf group = overlaid (first.keysOf group) (second.keysOf group)
  value? : ∀ group key,
    keyFile.value? group key = (second.value? group key).or (first.value? group key)

theorem Reading.Overlay.merges {base alone whole : Reading} (overlay : Overlay base alone whole)
    (below above collecting : Collecting) :
    Merges (base.keyFile below) (alone.keyFile above) (whole.keyFile collecting) where
  groupNames := by simpa [KeyFile.groupNames, Reading.keyFile] using overlay.groups
  keysOf group := by
    rw [keysOf_of_reading, keysOf_of_reading, keysOf_of_reading]
    exact (overlay.entries group).keys
  value? group key := by
    rw [Reading.keyFile, value?_of_reading, Reading.keyFile, value?_of_reading, Reading.keyFile,
      value?_of_reading, (overlay.entries group).get?]
    cases (alone.entriesOf group).get? key <;> rfl

section Append

variable {front back : Text} (ended : IsEnded front)
  (opens : Reading.OpensWithHeader (lines back))
include opens

/-- The lines of the second text are read after any others as they are read alone. -/
theorem mirrors_terminatedLines (base : Reading) (number : Nat) :
    Reading.Mirrors (Reading.Overlay base) (Reading.steps {} 1 (terminatedLines back))
      (base.steps number (terminatedLines back)) :=
  Reading.mirrors_steps_of_opensWithHeader (Reading.overlay_empty base) Reading.proper_empty
    opens.terminate (fun _ member => Reading.not_mem_strip_of_mem_terminatedLines member) 1 number

include ended

theorem exists_parts_of_parse {keyFile : KeyFile} (parsed : parse (front ++ back) = .ok keyFile) :
    (∃ first, parse front = .ok first) ∧ ∃ second, parse back = .ok second := by
  obtain ⟨whole, run, unfaulted, -⟩ := parse_eq_ok_iff.mp parsed
  rw [terminatedLines_append ended] at run
  obtain ⟨base, first_run, second_run⟩ := Reading.steps_append_eq_ok.mp run
  have mirrors := mirrors_terminatedLines opens base (1 + (terminatedLines front).length)
  rw [second_run] at mirrors
  obtain ⟨alone, alone_run, overlay⟩ := mirrors.exists_left
  obtain ⟨base_unfaulted, alone_unfaulted⟩ := overlay.faultless.mp unfaulted
  exact ⟨⟨_, parse_eq_ok_iff.mpr ⟨base, first_run, base_unfaulted, rfl⟩⟩,
    ⟨_, parse_eq_ok_iff.mpr ⟨alone, alone_run, alone_unfaulted, rfl⟩⟩⟩

theorem exists_merges_of_parse {first second : KeyFile} (first_parsed : parse front = .ok first)
    (second_parsed : parse back = .ok second) :
    ∃ keyFile, parse (front ++ back) = .ok keyFile ∧ Merges first second keyFile := by
  obtain ⟨base, first_run, base_unfaulted, rfl⟩ := parse_eq_ok_iff.mp first_parsed
  obtain ⟨alone, alone_run, alone_unfaulted, rfl⟩ := parse_eq_ok_iff.mp second_parsed
  have mirrors := mirrors_terminatedLines opens base (1 + (terminatedLines front).length)
  rw [alone_run] at mirrors
  obtain ⟨whole, second_run, overlay⟩ := mirrors.exists_right
  have run : Reading.steps {} 1 (terminatedLines (front ++ back)) = .ok whole := by
    rw [terminatedLines_append ended]
    exact Reading.steps_append_eq_ok.mpr ⟨base, first_run, second_run⟩
  have unfaulted := overlay.faultless.mpr ⟨base_unfaulted, alone_unfaulted⟩
  exact ⟨_, parse_eq_ok_iff.mpr ⟨whole, run, unfaulted, rfl⟩, overlay.merges _ _ _⟩

/-- A text that opens with a header is parsed after another one exactly when both are parsed alone,
and then its groups and entries lie over those of the other one. -/
theorem parse_append :
    ((∃ keyFile, parse (front ++ back) = .ok keyFile) ↔
      (∃ first, parse front = .ok first) ∧ ∃ second, parse back = .ok second) ∧
    ∀ first second keyFile, parse front = .ok first → parse back = .ok second →
      parse (front ++ back) = .ok keyFile → Merges first second keyFile := by
  refine ⟨⟨?_, ?_⟩, ?_⟩
  · rintro ⟨keyFile, parsed⟩
    exact exists_parts_of_parse ended opens parsed
  · rintro ⟨⟨first, first_parsed⟩, second, second_parsed⟩
    obtain ⟨keyFile, parsed, -⟩ := exists_merges_of_parse ended opens first_parsed second_parsed
    exact ⟨keyFile, parsed⟩
  · intro first second keyFile first_parsed second_parsed parsed
    obtain ⟨again, again_parsed, merges⟩ :=
      exists_merges_of_parse ended opens first_parsed second_parsed
    rw [parsed, Except.ok.injEq] at again_parsed
    exact again_parsed ▸ merges

end Append

/-- A group that is opened again after a comment, with a key of its own set anew. -/
theorem reopened_group_merges : ∃ first second keyFile,
    parse (Text.of "[a]\nk = 1\n  2\n") = .ok first ∧
      parse (Text.of "# c\n[b]\nj = 3\n[a]\ni = 4\nk = 5") = .ok second ∧
      parse (Text.of "[a]\nk = 1\n  2\n" ++ Text.of "# c\n[b]\nj = 3\n[a]\ni = 4\nk = 5") =
        .ok keyFile ∧
      Merges first second keyFile := by
  have opens : Reading.OpensWithHeader (lines (Text.of "# c\n[b]\nj = 3\n[a]\ni = 4\nk = 5")) := by
    intro line first
    obtain rfl : Text.of "[b]" = line := Option.some.inj first
    exact ⟨(isTrimmed_headerLine (Text.of "b")).1, Text.of "b", rfl⟩
  have ended : IsEnded (Text.of "[a]\nk = 1\n  2\n") := .inr (by decide)
  obtain ⟨-, merges⟩ := parse_append ended opens
  exact ⟨_, _, _, rfl, rfl, rfl, merges _ _ _ rfl rfl rfl⟩

end KeyFile
end PackageRepos
