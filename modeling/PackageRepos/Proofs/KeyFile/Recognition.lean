import PackageRepos.Proofs.KeyFile.Shape

/-!
# What is recognised line by line

The lines of a text together with the reading after each of them. The group and the key of that
reading are the header or the entry that was recognised last; those of a text that parses are found
in its key file. The place of a comment is what is recognised after it.
-/

namespace PackageRepos
namespace KeyFile

open Text

/-- A line that has been read. -/
structure Visit where
  /-- The line without the blanks around it. -/
  content : Text
  /-- What has been read once the line is. -/
  reading : Reading

namespace Visit

/-- The line is neither blank nor a comment. -/
def isContent (visit : Visit) : Bool := !visit.content.isEmpty && !isComment visit.content

/-- The header or the entry that was recognised last, on this line or on one that it continues. -/
def anchor? (visit : Visit) : Option Anchor :=
  visit.reading.group.map fun group => { group, key := visit.reading.key }

/-- The line has the form of a header, yet it is another group that is read from here on. -/
def misleads (visit : Visit) : Bool :=
  match headerName? visit.content with
  | some name => visit.reading.group != some name
  | none => false

end Visit

/-- The lines with what has been read after each of them, as far as reading goes. -/
def Reading.visits (reading : Reading) (number : Nat) : List Text → List Visit
  | [] => []
  | line :: rest =>
    match reading.step number line with
    | .ok next => { content := strip line, reading := next } :: next.visits (number + 1) rest
    | .error _ => []

/-- The lines of a text as they are read. -/
def visits (text : Text) : List Visit := Reading.visits {} 1 (terminatedLines text)

/-- Some line continues a value and has the form of a header of another group. -/
def hidesHeader (text : Text) : Bool := (visits text).any Visit.misleads

/-- What is recognised on the first line that is neither blank nor a comment. -/
def nextAnchor? (visits : List Visit) : Option Anchor :=
  (visits.find? Visit.isContent).bind Visit.anchor?

/-- The comments among the lines, each with what is recognised after it. -/
def placements : List Visit → List (Text × Option Anchor)
  | [] => []
  | visit :: rest =>
    if isComment visit.content then (visit.content, nextAnchor? rest) :: placements rest
    else placements rest

/-- The comments with a given place, in order. -/
def placedAt (place : Option Anchor) (placed : List (Text × Option Anchor)) : List Text :=
  (placed.filter fun comment => comment.2 = place).map Prod.fst

/-- The comments of a text before a header or an entry, or before nothing at all. -/
def commentsBefore (text : Text) (place : Option Anchor) : List Text :=
  placedAt place (placements (visits text))

namespace Reading

theorem visits_cons {reading next : Reading} {number : Nat} {line : Text}
    (taken : reading.step number line = .ok next) (rest : List Text) :
    reading.visits number (line :: rest) =
      { content := strip line, reading := next } :: next.visits (number + 1) rest := by
  simp [visits, taken]

/-- Every line is visited when all lines can be read. -/
theorem map_content_visits {reading final : Reading} {number : Nat} {lines : List Text}
    (run : reading.steps number lines = .ok final) :
    (reading.visits number lines).map Visit.content = lines.map strip := by
  induction lines generalizing reading number with
  | nil => rfl
  | cons line rest ih =>
    obtain ⟨next, taken, later⟩ := steps_cons_eq_ok run
    rw [visits_cons taken, List.map_cons, List.map_cons, ih later]

/-! ## Faults -/

theorem Advance.faults_isPrefix {reading next : Reading} {line : Text}
    (advance : Advance reading line next) : reading.faults <+: next.faults := by
  cases advance with
  | noted number kept => exact List.prefix_append _ _
  | _ => exact List.prefix_rfl

/-- A line that was noted stays noted. -/
theorem unfaulted_of_steps {reading final : Reading} {number : Nat} {lines : List Text}
    (run : reading.steps number lines = .ok final) (unfaulted : final.faults = []) :
    reading.faults = [] := by
  have grown : reading.faults <+: final.faults :=
    steps_induction (fun next => reading.faults <+: next.faults)
      (fun _ _ _ _ before advance => before.trans advance.faults_isPrefix) List.prefix_rfl run
  exact List.prefix_nil.mp (unfaulted ▸ grown)

/-! ## Recognised headers and entries -/

/-- The header or the entry has been read. -/
def Knows (reading : Reading) (anchor : Anchor) : Prop :=
  anchor.group ∈ reading.groups.keys ∧
    ∀ key, anchor.key = some key → ∃ lines, (reading.entriesOf anchor.group).get? key = some lines

/-- Reading forgets nothing. -/
theorem Knows.advance {reading next : Reading} {line : Text} {anchor : Anchor}
    (knows : reading.Knows anchor) (advance : Advance reading line next) : next.Knows anchor := by
  cases advance with
  | skipped idle => exact knows
  | noted number kept => exact knows
  | continued content continues =>
    refine ⟨OrderedMap.mem_keys_insert.mpr (.inr knows.1), fun key keyed => ?_⟩
    rw [get?_entriesOf_continueValue]
    split
    · exact ⟨_, rfl⟩
    · exact knows.2 key keyed
  | opened content found =>
    refine ⟨OrderedMap.mem_keys_insert.mpr (.inr knows.1), fun key keyed => ?_⟩
    rw [entriesOf_openGroup]
    exact knows.2 key keyed
  | started content current headerless found nonempty =>
    refine ⟨OrderedMap.mem_keys_insert.mpr (.inr knows.1), fun key keyed => ?_⟩
    rw [get?_entriesOf_startValue]
    split
    · exact ⟨_, rfl⟩
    · exact knows.2 key keyed

theorem Knows.steps {reading final : Reading} {number : Nat} {lines : List Text} {anchor : Anchor}
    (knows : reading.Knows anchor) (run : reading.steps number lines = .ok final) :
    final.Knows anchor :=
  steps_induction (fun next => next.Knows anchor)
    (fun _ _ _ _ before advance => before.advance advance) knows run

theorem Proper.knows {reading : Reading} (proper : reading.Proper) {group : Text}
    (current : reading.group = some group) : reading.Knows { group, key := reading.key } :=
  ⟨proper.current group current, fun key pointed => proper.pointed group key current pointed⟩

/-- A line that can be read and is neither blank nor a comment belongs to a group. -/
theorem Advance.exists_group {reading next : Reading} {line : Text}
    (advance : Advance reading line next) (content : IsContent line)
    (unfaulted : next.faults = []) :
    ∃ group, next.group = some group := by
  cases advance with
  | skipped idle => exact absurd content idle
  | continued _ continues => exact ⟨_, (continued?_eq_some continues).1⟩
  | opened => exact ⟨_, rfl⟩
  | started _ current => exact ⟨_, current⟩
  | noted => simp [note] at unfaulted

end Reading

theorem Visit.isContent_iff {line : Text} {reading : Reading} :
    Visit.isContent { content := strip line, reading } = true ↔ Reading.IsContent line := by
  simp only [isContent, Bool.and_eq_true, Bool.not_eq_true', List.isEmpty_eq_false_iff]
  exact ⟨fun content => ⟨content.1, content.2⟩, fun content => ⟨content.1, content.2⟩⟩

theorem Reading.blank_or_isComment {line : Text} (idle : ¬ Reading.IsContent line) :
    strip line = [] ∨ isComment (strip line) = true := by
  by_cases blank : strip line = []
  · exact .inl blank
  · exact .inr (by simpa using fun uncommented => idle ⟨blank, uncommented⟩)

/-- What is recognised on a line is known when all lines have been read. -/
theorem Reading.knows_of_mem_visits {reading final : Reading} {number : Nat} {lines : List Text}
    (proper : reading.Proper) (single : ∀ line ∈ lines, '\n' ∉ strip line)
    (run : reading.steps number lines = .ok final) (unfaulted : final.faults = []) :
    ∀ visit ∈ reading.visits number lines, visit.isContent = true →
      ∃ anchor, visit.anchor? = some anchor ∧ final.Knows anchor := by
  induction lines generalizing reading number with
  | nil => simp [visits]
  | cons line rest ih =>
    obtain ⟨next, taken, later⟩ := steps_cons_eq_ok run
    have advance := advance_of_step taken
    have next_proper := proper.advance (single line List.mem_cons_self) advance
    rw [visits_cons taken]
    intro visit member
    rcases List.mem_cons.mp member with rfl | member
    · intro content
      obtain ⟨group, current⟩ := advance.exists_group (Visit.isContent_iff.mp content)
        (unfaulted_of_steps later unfaulted)
      exact ⟨_, by simp [Visit.anchor?, current], (next_proper.knows current).steps later⟩
    · exact ih next_proper (fun other inner => single other (List.mem_cons_of_mem line inner)) later
        visit member

/-! ## Places of comments -/

/-- The comments among the lines are those that have a place. -/
theorem map_fst_placements (visits : List Visit) :
    (placements visits).map Prod.fst = (visits.map Visit.content).filter isComment := by
  induction visits with
  | nil => rfl
  | cons visit rest ih =>
    rw [placements, List.map_cons, List.filter_cons]
    split <;> simp [ih]

theorem exists_visit_of_nextAnchor? {visits : List Visit} {anchor : Anchor}
    (found : nextAnchor? visits = some anchor) :
    ∃ visit ∈ visits, visit.isContent = true ∧ visit.anchor? = some anchor := by
  obtain ⟨visit, first, recognised⟩ := Option.bind_eq_some_iff.mp found
  exact ⟨visit, List.mem_of_find?_eq_some first, List.find?_some first, recognised⟩

/-- A comment is placed where a line is recognised. -/
theorem exists_visit_of_mem_placements {visits : List Visit} {comment : Text} {anchor : Anchor}
    (member : (comment, some anchor) ∈ placements visits) :
    ∃ visit ∈ visits, visit.isContent = true ∧ visit.anchor? = some anchor := by
  induction visits with
  | nil => simp [placements] at member
  | cons visit rest ih =>
    suffices later : ∃ other ∈ rest, other.isContent = true ∧ other.anchor? = some anchor by
      obtain ⟨other, inner, found⟩ := later
      exact ⟨other, List.mem_cons_of_mem visit inner, found⟩
    rw [placements] at member
    split at member
    · rcases List.mem_cons.mp member with same | inner
      · exact exists_visit_of_nextAnchor? (congrArg Prod.snd same).symm
      · exact ih inner
    · exact ih member

theorem placedAt_append (place : Option Anchor) (front back : List (Text × Option Anchor)) :
    placedAt place (front ++ back) = placedAt place front ++ placedAt place back := by
  simp [placedAt]

/-- Comments that wait for the same line have the same place. -/
theorem placedAt_map_pair (place here : Option Anchor) (comments : List Text) :
    placedAt place (comments.map fun comment => (comment, here)) =
      if place = here then comments else [] := by
  by_cases same : place = here
  · simp [placedAt, List.filter_map, Function.comp_def, same]
  · simp [placedAt, List.filter_map, Function.comp_def, same, Ne.symm same]

/-- Taking the comments place by place yields each of them once. -/
theorem perm_flatMap_placedAt {places : List (Option Anchor)}
    {placed : List (Text × Option Anchor)} (distinct : places.Nodup)
    (covered : ∀ comment ∈ placed, comment.2 ∈ places) :
    (places.flatMap fun place => placedAt place placed).Perm (placed.map Prod.fst) := by
  induction places generalizing placed with
  | nil =>
    have empty : placed = [] := List.eq_nil_iff_forall_not_mem.mpr fun comment member =>
      List.not_mem_nil (covered comment member)
    simp [empty]
  | cons place rest ih =>
    obtain ⟨fresh, rest_distinct⟩ := List.nodup_cons.mp distinct
    let others := placed.filter fun comment => !decide (comment.2 = place)
    have elsewhere : (rest.flatMap fun other => placedAt other placed) =
        rest.flatMap fun other => placedAt other others := by
      refine congrArg List.flatten (List.map_congr_left fun other member => ?_)
      rw [placedAt, placedAt, List.filter_filter]
      refine congrArg (List.map Prod.fst) (List.filter_congr fun comment _ => ?_)
      have apart : other ≠ place := fun same => fresh (same ▸ member)
      by_cases here : comment.2 = other <;> simp [here, apart]
    have others_covered : ∀ comment ∈ others, comment.2 ∈ rest := by
      intro comment member
      obtain ⟨inner, apart⟩ := List.mem_filter.mp member
      exact (List.mem_cons.mp (covered comment inner)).resolve_left (by simpa using apart)
    rw [List.flatMap_cons, elsewhere]
    calc
      (placedAt place placed ++ rest.flatMap fun other => placedAt other others).Perm
          (placedAt place placed ++ others.map Prod.fst) :=
        (ih rest_distinct others_covered).append_left _
      _ = (placed.filter (fun comment => decide (comment.2 = place)) ++ others).map Prod.fst := by
        rw [placedAt, List.map_append]
      List.Perm _ (placed.map Prod.fst) := (List.filter_append_perm _ placed).map Prod.fst

end KeyFile
end PackageRepos
