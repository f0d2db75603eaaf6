import PackageRepos.Proofs.Folding
import PackageRepos.Proofs.KeyFile.Commentary

/-!
# Plainly indented texts

Where lines are indented with spaces and tabs only, folding leaves nothing for a reading to
continue: every value stands on one line, and every comment keeps its place.
-/

namespace PackageRepos
namespace KeyFile

open Text

theorem headerName?_of_isComment {content : Text} (marked : isComment content = true) :
    headerName? content = none := by
  apply headerName?_eq_none
  rintro rest rfl
  simp [isComment] at marked

namespace Reading

theorem continuesWithin_cons_eq_false {reading : Reading} {number : Nat} {line : Text}
    {rest : List Text} (starts : IsContent line → reading.continued? (indentation line) = none)
    (later : ∀ next : Reading, next.continuesWithin (number + 1) rest = false) :
    reading.continuesWithin number (line :: rest) = false := by
  rw [continuesWithin, Bool.or_eq_false_iff]
  constructor
  · by_cases content : IsContent line
    · simp [starts content]
    · rcases blank_or_isComment content with blank | marked
      · simp [blank]
      · simp [marked]
  · split
    · exact later _
    · rfl

/-- Lines without indentation continue nothing. -/
theorem continuesWithin_eq_false {lines : List Text}
    (unindented : ∀ line ∈ lines, IsContent line → indentation line = 0) (reading : Reading)
    (number : Nat) : reading.continuesWithin number lines = false := by
  induction lines generalizing reading number with
  | nil => rfl
  | cons line rest ih =>
    refine continuesWithin_cons_eq_false (fun content => ?_) fun next => ?_
    · rw [unindented line List.mem_cons_self content, continued?_zero]
    · exact ih (fun other member => unindented other (List.mem_cons_of_mem line member)) next _

/-- A line that continues nothing and has the form of a header opens its group. -/
theorem Advance.misleads_eq_false {reading next : Reading} {line : Text}
    (advance : Advance reading line next) (unfaulted : next.faults = [])
    (starts : IsContent line → reading.continued? (indentation line) = none) :
    Visit.misleads { content := strip line, reading := next } = false := by
  cases advance with
  | skipped idle =>
    have headerless : headerName? (strip line) = none := by
      rcases blank_or_isComment idle with blank | marked
      · rw [blank]
        rfl
      · exact headerName?_of_isComment marked
    simp [Visit.misleads, headerless]
  | continued content continues => simp [starts content] at continues
  | opened content found => simp [Visit.misleads, found, openGroup]
  | started _ _ headerless => simp [Visit.misleads, headerless]
  | noted => simp [note] at unfaulted

theorem misleads_eq_false_of_steps {reading final : Reading} {number : Nat} {lines : List Text}
    (run : reading.steps number lines = .ok final) (unfaulted : final.faults = [])
    (starts : reading.continuesWithin number lines = false) :
    ∀ visit ∈ reading.visits number lines, visit.misleads = false := by
  induction lines generalizing reading number with
  | nil => simp [visits]
  | cons line rest ih =>
    obtain ⟨next, taken, later⟩ := steps_cons_eq_ok run
    simp only [continuesWithin, taken, Bool.or_eq_false_iff] at starts
    obtain ⟨start_here, start_later⟩ := starts
    rw [visits_cons taken]
    intro visit member
    rcases List.mem_cons.mp member with rfl | member
    · apply (advance_of_step taken).misleads_eq_false (unfaulted_of_steps later unfaulted)
      intro content
      simpa [content.nonempty, content.uncommented] using start_here
    · exact ih later start_later visit member

end Reading

/-- A text in which nothing is continued hides no header. -/
theorem hidesHeader_of_hasContinuation {text : Text} {keyFile : KeyFile}
    (parsed : parse text = .ok keyFile) (none : hasContinuation text = false) :
    hidesHeader text = false := by
  obtain ⟨final, run, unfaulted, -⟩ := exists_unfaulted_of_parse parsed
  refine List.any_eq_false.mpr fun visit member => ?_
  simpa using Reading.misleads_eq_false_of_steps run unfaulted none visit member

/-- Once folded, a plainly indented text has nothing that is continued. -/
theorem hasContinuation_fold {text : Text} (plain : Folding.IsPlainlyIndented text) :
    hasContinuation (Folding.fold text) = false := by
  obtain ⟨first, others, split, flush⟩ := plain.exists_lines_fold
  have unindented : ∀ line ∈ terminatedLines.terminate others, Reading.IsContent line →
      indentation line = 0 := by
    intro line member content
    rcases of_mem_terminate member with found | ⟨piece, found, rfl⟩
    · exact indentation_of_isFlush (flush line found)
    · exact Reading.indentation_terminated (flush piece found)
        (Reading.strip_terminated piece ▸ content.nonempty)
  rw [hasContinuation, terminatedLines, split]
  rcases terminate_cons first others with empty | ⟨line, cons_eq⟩
  · rw [empty]
    rfl
  · rw [cons_eq]
    -- Before the first line there is no value that it could continue.
    refine Reading.continuesWithin_cons_eq_false (fun _ => rfl) fun next => ?_
    exact Reading.continuesWithin_eq_false unindented next _

/-- What a plainly indented text describes has each value on one line and keeps its comments. -/
theorem singleLined_and_keepsComments {text : Text} {keyFile : KeyFile}
    (parsed : parse (Folding.fold text) = .ok keyFile) (plain : Folding.IsPlainlyIndented text) :
    keyFile.SingleLined ∧ KeepsComments (Folding.fold text) keyFile := by
  have none := hasContinuation_fold plain
  exact ⟨singleLined_of_hasContinuation parsed none,
    keepsComments_of_parse parsed (hidesHeader_of_hasContinuation parsed none)⟩

end KeyFile
end PackageRepos
