import PackageRepos.Proofs.Folding.Gluing
import PackageRepos.Proofs.KeyFile.Composition

/-!
# A value on several lines

A file with one group and one key, whose value goes on in indented lines. It is parsed with the
group, and with the glued pieces of the value, joined with semicolons, as the value of the key.
-/

namespace PackageRepos

/-- The text holds neither tabs nor newlines. -/
structure Text.IsLine (text : Text) : Prop where
  untabbed : '\t' ∉ text
  single : '\n' ∉ text

/-- The text consists of spaces and tabs. -/
def Text.IsIndentation (text : Text) : Prop := ∀ char ∈ text, char = ' ' ∨ char = '\t'

instance (text : Text) : Decidable text.IsIndentation :=
  List.decidableBAll _ text

namespace KeyFile

open Text Folding

/-- A line that is indented with spaces and tabs. -/
structure IndentedLine where
  indentation : Text
  content : Text
  nonempty : indentation ≠ []
  blank : IsIndentation indentation
  line : IsLine content

/-- The whole line. -/
def IndentedLine.row (line : IndentedLine) : Text := line.indentation ++ line.content

/-- A value on several lines: the one behind the key and those below. -/
structure SpreadValue where
  first : Text
  first_line : IsLine first
  further : List IndentedLine

namespace SpreadValue

/-- The lines below the first one, without their indentation. -/
def below (value : SpreadValue) : List Text := value.further.map IndentedLine.content

/-- The lines of the value without their indentation. -/
def contents (value : SpreadValue) : List Text := value.first :: value.below

/-- The lines of a file with the value for a key of a group; the last line may be ended by a
newline. -/
def fileLines (value : SpreadValue) (id key : Text) (ended : Bool) : List Text :=
  headerLine id :: entryLine key value.first ::
    (value.further.map IndentedLine.row ++ if ended then [[]] else [])

/-- The text of the file. -/
def text (value : SpreadValue) (id key : Text) (ended : Bool) : Text :=
  unlines (value.fileLines id key ended)

/-- The value that the lines are folded to. -/
def folded (value : SpreadValue) : Text := join [';'] (gluedOnto value.first value.below)

end SpreadValue

/-! ## Folding -/

theorem untabbed_append (front back : Text) :
    untabbed (front ++ back) = untabbed front ++ untabbed back :=
  List.map_append

namespace IndentedLine

variable (line : IndentedLine)

/-- Without tabs, the line is indented with spaces. -/
theorem untabbed_row :
    untabbed line.row = List.replicate line.indentation.length ' ' ++ line.content := by
  have spaces : untabbed line.indentation = List.replicate line.indentation.length ' ' := by
    refine List.eq_replicate_iff.mpr ⟨List.length_map _, fun char member => ?_⟩
    obtain ⟨before, before_member, rfl⟩ := List.mem_map.mp member
    rcases line.blank before before_member with rfl | rfl <;> rfl
  rw [row, untabbed_append, spaces, untabbed_of_not_mem line.line.untabbed]

theorem isContinuation_row : isContinuation (untabbed line.row) = true := by
  obtain ⟨char, rest, indentation_eq⟩ := List.exists_cons_of_ne_nil line.nonempty
  rw [untabbed_row, indentation_eq]
  rfl

theorem stripLeft_row : stripLeft (untabbed line.row) = stripLeft line.content := by
  rw [untabbed_row, stripLeft, List.dropWhile_append_of_pos]
  · rfl
  · intro char member
    rw [List.eq_of_mem_replicate member]
    decide

theorem not_mem_row : '\n' ∉ line.row := by
  intro member
  rcases List.mem_append.mp member with before | inside
  · exact absurd (line.blank _ before) (by decide)
  · exact line.line.single inside

end IndentedLine

/-- Of the lines below, only what follows their indentation matters. -/
theorem gluedOnto_map {α : Type} {rows contents : α → Text}
    (same : ∀ line, stripLeft (rows line) = stripLeft (contents line)) (previous : Text)
    (below : List α) :
    gluedOnto previous (below.map rows) = gluedOnto previous (below.map contents) := by
  induction below generalizing previous with
  | nil => rfl
  | cons line rest ih => simp only [List.map_cons, gluedOnto, same, ih]

theorem isContinuation_entryLine {key : Text} (flush : IsFlush key) (nonempty : key ≠ [])
    (value : Text) : isContinuation (entryLine key value) = false := by
  obtain ⟨char, rest, rfl⟩ := List.exists_cons_of_ne_nil nonempty
  have solid : isBlank char = false := isFlush_cons.mp flush
  have other : char ≠ ' ' := by
    rintro rfl
    exact absurd solid (by decide)
  simpa [isContinuation, entryLine] using other

section File

variable (value : SpreadValue) {id key : Text} (id_single : '\n' ∉ id) (key_line : IsLine key)
  (ended : Bool)
include id_single key_line

theorem SpreadValue.lines_text :
    lines (value.text id key ended) = value.fileLines id key ended := by
  refine lines_unlines (fun piece member => ?_) (by simp [fileLines])
  simp only [fileLines, List.mem_cons, List.mem_append, List.mem_map] at member
  rcases member with rfl | rfl | ⟨line, -, rfl⟩ | last
  · simpa [headerLine] using id_single
  · simpa [entryLine, Text.of] using ⟨key_line.single, value.first_line.single⟩
  · exact line.not_mem_row
  · cases ended <;> simp_all

/-- The file is folded to its header and one entry. -/
theorem SpreadValue.lines_fold (flush : IsFlush key) (nonempty : key ≠ []) :
    lines (fold (value.text id key ended)) =
      headerLine (untabbed id) :: entryLine key value.folded :: if ended then [[]] else [] := by
  have header_eq : untabbed (headerLine id) = headerLine (untabbed id) := by
    simp [untabbed, headerLine]
  have entry_eq : untabbed (entryLine key value.first) = entryLine key value.first :=
    untabbed_of_not_mem (by
      simpa [entryLine, Text.of] using ⟨key_line.untabbed, value.first_line.untabbed⟩)
  have ending_eq : (if ended then [[]] else [] : List Text).map untabbed =
      if ended then [[]] else [] := by
    cases ended <;> rfl
  have closed : ¬EndsOpen (key ++ Text.of " = ") := by simp [EndsOpen, Text.of]
  have continuing : ∀ row ∈ value.further.map fun line => untabbed line.row,
      isContinuation row = true := by
    intro row member
    obtain ⟨line, -, rfl⟩ := List.mem_map.mp member
    exact line.isContinuation_row
  have ending_starts : ∀ row ∈ (if ended then [[]] else [] : List Text),
      isContinuation row = false := by
    cases ended <;> simp [isContinuation]
  have folded_eq := foldOnto_of_continuations closed value.first continuing ending_starts
  rw [gluedOnto_map IndentedLine.stripLeft_row] at folded_eq
  rw [Folding.lines_fold, value.lines_text id_single key_line, fileLines]
  simp only [List.map_cons, List.map_append, List.map_map, header_eq, entry_eq, ending_eq,
    foldLines]
  rw [foldOnto_cons_of_start _ (isContinuation_entryLine flush nonempty value.first)]
  exact congrArg _ folded_eq

end File

/-! ## Reading -/

/-- The line of an entry is read as the entry with its value trimmed, whether a newline ends the
line or not. -/
theorem step_entryLine {reading : Reading} (number : Nat) {group key value : Text}
    (current : reading.group = some group) (entry : IsEntry key (strip value)) {row : Text}
    (row_eq : row = entryLine key value ∨ row = terminated (entryLine key value)) :
    reading.step number row =
      .ok ({ reading with level := some 0 }.startValue group key (strip value)) := by
  obtain ⟨nonempty, uncommented, headerless, found, -⟩ := entry.reads
  obtain ⟨first, others, rfl⟩ := List.exists_cons_of_ne_nil entry.nonempty
  have flush := entry.toIsKey.isFlush_entryLine value
  have row_facts : indentation row = 0 ∧ strip row = strip (entryLine (first :: others) value) := by
    rcases row_eq with rfl | rfl
    · exact ⟨indentation_of_isFlush flush, rfl⟩
    · exact ⟨Reading.indentation_terminated flush (by simpa using nonempty),
        Reading.strip_terminated _⟩
  obtain ⟨unindented, same⟩ := row_facts
  rw [← same] at nonempty uncommented headerless found
  rw [reading.step_of_unindented number unindented nonempty uncommented]
  simp [Reading.start, headerless, current, found]

/-- A text with a header and one entry is parsed as that. -/
theorem exists_parse_eq_ok {text id key value : Text} (named : IsGroupName id)
    (entry : IsEntry key (strip value)) {ended : Bool}
    (split : lines text = headerLine id :: entryLine key value :: if ended then [[]] else []) :
    ∃ keyFile, parse text = .ok keyFile ∧ keyFile.groupNames = [id] ∧
      keyFile.value? id key = some (strip value) := by
  obtain ⟨row, rows_eq, row_eq⟩ : ∃ row, terminatedLines text = [terminated (headerLine id), row] ∧
      (row = entryLine key value ∨ row = terminated (entryLine key value)) := by
    rw [terminatedLines, split]
    cases ended with
    | true => exact ⟨_, rfl, .inr rfl⟩
    | false =>
      have filled : (entryLine key value).isEmpty = false := by simp [entryLine, Text.of]
      exact ⟨entryLine key value, by simp [terminatedLines.terminate, filled, terminated], .inl rfl⟩
  let opened := Reading.openGroup { level := some 0 } id
  have run : Reading.steps {} 1 (terminatedLines text) =
      .ok ({ opened with level := some 0 }.startValue id key (strip value)) := by
    rw [rows_eq, Reading.steps, Reading.step_header _ _ named]
    simp only [Reading.steps]
    rw [step_entryLine 2 rfl entry row_eq]
  refine ⟨_, parse_eq_ok_iff.mpr ⟨_, run, rfl, rfl⟩, ?_, ?_⟩
  · simp [groupNames, Reading.keyFile, Reading.startValue, opened, Reading.openGroup,
      OrderedMap.keys_insert]
  · have trimmed := isTrimmed_strip value
    rw [Reading.keyFile, value?_of_reading, Reading.get?_entriesOf_startValue, if_pos ⟨rfl, rfl⟩,
      Option.map_some, Reading.joinValue, unlines_singleton,
      stripRight_of_isFlush_reverse trimmed.2]

end KeyFile
end PackageRepos
