import PackageRepos.Folding
import PackageRepos.Proofs.KeyFile.Layout
import PackageRepos.Proofs.KeyFile.Recognition
import PackageRepos.Proofs.KeyFile.RoundTrip

/-!
# Comments keep their places

Comments are collected apart from the reading of groups and entries, by the form of lines alone.
Collecting goes along with reading, line by line, as long as no line that continues a value has the
form of a header of another group. A text without such lines prints with all of its comments, each
of them above what was recognised after it.
-/

namespace PackageRepos
namespace KeyFile

open Text

/-- The key file holds and prints the comments of the text in their places. -/
structure KeepsComments (text : Text) (keyFile : KeyFile) : Prop where
  /-- Every line that is neither blank nor a comment belongs to a header or an entry that is
  printed. -/
  recognised : ∀ visit ∈ visits text, visit.isContent = true →
    ∃ anchor ∈ keyFile.anchors, visit.anchor? = some anchor
  /-- Comments print directly above what was recognised after them, in the order of the text, and
  those after which nothing was recognised print at the end. -/
  placed : lines keyFile.print = keyFile.layout (commentsBefore text) ∨
    lines keyFile.print = keyFile.layout (commentsBefore text) ++ [[]]
  /-- Nothing else that is printed is a comment. -/
  uncommented : commentsAmong (keyFile.layout fun _ => []) = []
  /-- The same comments are printed, each as often as it stands in the text. -/
  counted : (commentLines keyFile.print).Perm (commentLines text)

/-! ## Collecting along with reading -/

theorem nextAnchor?_cons_of_idle {visit : Visit} (idle : visit.isContent = false)
    (rest : List Visit) : nextAnchor? (visit :: rest) = nextAnchor? rest := by
  simp [nextAnchor?, idle]

theorem nextAnchor?_cons_of_content {visit : Visit} (content : visit.isContent = true)
    (rest : List Visit) : nextAnchor? (visit :: rest) = visit.anchor? := by
  simp [nextAnchor?, content]

namespace Collecting

theorem step_of_content (collecting : Collecting) {line : Text} (content : Reading.IsContent line) :
    collecting.step line =
      match headerName? (strip line), collecting.group with
      | some group, _ => { collecting with group := some group }.attach { group }
      | none, some group => collecting.attach { group, key := some (keyPart (strip line)) }
      | none, none => collecting := by
  have filled : ¬(strip line).isEmpty = true := by simpa using content.nonempty
  have uncommented : ¬isComment (strip line) = true := by simp [content.uncommented]
  unfold step
  exact (if_neg filled).trans (if_neg uncommented)

/-- Where no comments wait, none are kept. -/
theorem attach_of_settled {collecting : Collecting} (settled : collecting.pending = [])
    (anchor : Anchor) : collecting.attach anchor = collecting := by
  simp [attach, settled]

/-- Both are in the same group, and comments wait only where no value can be continued. -/
structure Follows (collecting : Collecting) (reading : Reading) : Prop where
  group : collecting.group = reading.group
  waiting : collecting.pending ≠ [] → reading.level = none

/-- The comments that wait and those of lines to come, each with its place. -/
def placements (collecting : Collecting) (visits : List Visit) : List (Text × Option Anchor) :=
  collecting.pending.map (fun comment => (comment, nextAnchor? visits)) ++
    KeyFile.placements visits

/-- A line that is blank or a comment moves no comment from its place. -/
theorem placements_step_of_idle (collecting : Collecting) {line : Text} (reading : Reading)
    (idle : ¬ Reading.IsContent line) (rest : List Visit) :
    (collecting.step line).placements rest =
      collecting.placements ({ content := strip line, reading } :: rest) := by
  have idle_visit : Visit.isContent { content := strip line, reading } = false := by
    simpa using mt Visit.isContent_iff.mp idle
  rw [placements, placements, nextAnchor?_cons_of_idle idle_visit, KeyFile.placements]
  rcases Reading.blank_or_isComment idle with blank | marked
  · simp [step, blank, isComment]
  · simp [step, marked, ne_nil_of_isComment marked]

/-- Comments that wait belong to the next line that is neither blank nor a comment. -/
theorem placements_cons_of_content (collecting : Collecting) {visit : Visit}
    (content : visit.isContent = true) (rest : List Visit) :
    collecting.placements (visit :: rest) =
      collecting.pending.map (fun comment => (comment, visit.anchor?)) ++
        KeyFile.placements rest := by
  have uncommented : isComment visit.content = false := by
    simpa using (Bool.and_eq_true_iff.mp content).2
  simp [placements, KeyFile.placements, nextAnchor?_cons_of_content content, uncommented]

theorem comments_step_of_idle (collecting : Collecting) {line : Text}
    (idle : ¬ Reading.IsContent line) :
    (collecting.step line).comments = collecting.comments ∧
      (collecting.step line).group = collecting.group := by
  unfold step
  simp only
  split
  · exact ⟨rfl, rfl⟩
  · split
    · exact ⟨rfl, rfl⟩
    · rename_i nonempty uncommented
      exact absurd ⟨by simpa using nonempty, by simpa using uncommented⟩ idle

namespace Follows

variable {collecting : Collecting} {reading next : Reading} {line : Text}
  (follows : collecting.Follows reading) (advance : Reading.Advance reading line next)
  (unfaulted : next.faults = [])
include follows advance unfaulted

theorem step_of_idle (idle : ¬ Reading.IsContent line) : (collecting.step line).Follows next := by
  have same := collecting.comments_step_of_idle idle
  cases advance with
  | skipped _ => exact ⟨same.2.trans follows.group, fun _ => rfl⟩
  | continued content _ => exact absurd content idle
  | opened content _ => exact absurd content idle
  | started content _ _ _ _ => exact absurd content idle
  | noted => simp [Reading.note] at unfaulted

/-- Waiting comments are kept above what the reading recognises. -/
theorem step_of_content (content : Reading.IsContent line)
    (plain : Visit.misleads { content := strip line, reading := next } = false) :
    ∃ anchor, Visit.anchor? { content := strip line, reading := next } = some anchor ∧
      collecting.step line = { collecting with group := next.group }.attach anchor := by
  have unmoved : { collecting with group := reading.group } = collecting := by
    rw [← follows.group]
  rw [Collecting.step_of_content collecting content]
  cases advance with
  | skipped idle => exact absurd content idle
  | noted => simp [Reading.note] at unfaulted
  | opened _ found => exact ⟨_, rfl, by rw [found]; rfl⟩
  | @started group key value _ current headerless found nonempty =>
    have current_too : collecting.group = some group := follows.group.trans current
    have key_eq : keyPart (strip line) = key := by
      unfold entryOf? at found
      split at found
      · exact congrArg Prod.fst (Option.some.inj found)
      · simp at found
    refine ⟨{ group, key := some key }, by simp [Visit.anchor?, Reading.startValue, current], ?_⟩
    rw [headerless, current_too, key_eq]
    exact congrArg (attach · { group, key := some key }) unmoved.symm
  | @continued group key _ continues =>
    obtain ⟨current, pointed⟩ := Reading.continued?_eq_some continues
    -- A value is continued only directly below its lines, where no comment waits.
    have settled : collecting.pending = [] := by
      by_cases waits : collecting.pending = []
      · exact waits
      · simp [Reading.continued?, current, pointed, follows.waiting waits] at continues
    refine ⟨{ group, key := some key },
      by simp [Visit.anchor?, Reading.continueValue, current, pointed], ?_⟩
    calc
      _ = collecting := by
        cases named : headerName? (strip line) with
        | none =>
          rw [follows.group, current]
          exact attach_of_settled settled _
        | some name =>
          have same : reading.group = some name := by
            simpa [Visit.misleads, named, Reading.continueValue] using plain
          simp only [← same, unmoved]
          exact attach_of_settled settled _
      _ = collecting.attach { group, key := some key } := (attach_of_settled settled _).symm
      _ = _ := congrArg (attach · { group, key := some key }) unmoved.symm

end Follows

/-- All comments end up where they are placed. -/
theorem foldl_step_of_steps {lines : List Text} {collecting : Collecting} {reading final : Reading}
    {number : Nat} (follows : collecting.Follows reading)
    (run : reading.steps number lines = .ok final) (unfaulted : final.faults = [])
    (plain : ∀ visit ∈ reading.visits number lines, visit.misleads = false) :
    (∀ anchor, (lines.foldl step collecting).linesAt anchor =
      collecting.linesAt anchor ++
        placedAt (some anchor) (collecting.placements (reading.visits number lines))) ∧
      (lines.foldl step collecting).pending =
        placedAt none (collecting.placements (reading.visits number lines)) := by
  induction lines generalizing collecting reading number with
  | nil =>
    simp [Reading.visits, placements, KeyFile.placements, nextAnchor?, placedAt_map_pair]
  | cons line rest ih =>
    obtain ⟨next, taken, later⟩ := Reading.steps_cons_eq_ok run
    have advance := Reading.advance_of_step taken
    have next_unfaulted := Reading.unfaulted_of_steps later unfaulted
    rw [Reading.visits_cons taken] at plain ⊢
    have rest_plain := fun visit member => plain visit (List.mem_cons_of_mem _ member)
    rw [List.foldl_cons]
    by_cases content : Reading.IsContent line
    · obtain ⟨anchor, recognised, step_eq⟩ :=
        follows.step_of_content advance next_unfaulted content (plain _ List.mem_cons_self)
      have followed : (collecting.step line).Follows next := by
        rw [step_eq]
        exact ⟨by simp, by simp⟩
      have settled : (collecting.step line).placements (next.visits (number + 1) rest) =
          KeyFile.placements (next.visits (number + 1) rest) := by
        simp [placements, step_eq]
      obtain ⟨kept, waiting⟩ := ih followed later rest_plain
      rw [settled] at kept waiting
      rw [placements_cons_of_content collecting (Visit.isContent_iff.mpr content), recognised]
      simp only [placedAt_append, placedAt_map_pair]
      constructor
      · intro other
        rw [kept, step_eq, linesAt_attach]
        by_cases here : other = anchor
        · simp [here, linesAt]
        · simp [here, linesAt]
      · simpa using waiting
    · have same := collecting.comments_step_of_idle content
      obtain ⟨kept, waiting⟩ :=
        ih (follows.step_of_idle advance next_unfaulted content) later rest_plain
      rw [collecting.placements_step_of_idle next content] at kept waiting
      refine ⟨fun anchor => ?_, waiting⟩
      rw [kept, linesAt, same.1, linesAt]

end Collecting

/-- Collecting takes the lines as they are read, without the blanks around them. -/
theorem collectComments_eq (text : Text) :
    collectComments text = (terminatedLines text).foldl Collecting.step {} := by
  have trimmed : ∀ rows : List Text, rows.foldl Collecting.step {} =
      (rows.map strip).foldl Collecting.step {} := by
    intro rows
    rw [List.foldl_map]
    congr 1
    funext collecting line
    simp [Collecting.step, strip_of_isTrimmed (isTrimmed_strip line)]
  rw [collectComments, trimmed, trimmed (terminatedLines text)]
  rcases map_lines_eq Reading.strip_terminated text with same | longer
  · rw [same]
  · rw [longer, List.foldl_append]
    rfl

/-- The comments among the lines that are read are those of the text. -/
theorem commentsAmong_terminatedLines (text : Text) :
    commentsAmong (terminatedLines text) = commentLines text := by
  rw [commentLines, commentsAmong, commentsAmong]
  rcases map_lines_eq Reading.strip_terminated text with same | longer
  · rw [same]
  · rw [longer, List.filter_append]
    exact (List.append_nil _).symm

/-! ## Parsed key files -/

/-- The comments of a parsed key file are those of the text before its headers and entries. -/
theorem ownComments_of_parse {text : Text} {keyFile : KeyFile} (parsed : parse text = .ok keyFile)
    (plain : hidesHeader text = false) : keyFile.ownComments = commentsBefore text := by
  obtain ⟨final, run, unfaulted, rfl⟩ := exists_unfaulted_of_parse parsed
  have follows : Collecting.Follows {} {} := ⟨rfl, by simp⟩
  obtain ⟨kept, waiting⟩ := Collecting.foldl_step_of_steps follows run unfaulted
    fun visit member => by simpa using List.any_eq_false.mp plain visit member
  rw [← collectComments_eq] at kept waiting
  have placed : Collecting.placements {} (Reading.visits {} 1 (terminatedLines text)) =
      placements (visits text) := rfl
  rw [placed] at waiting
  funext place
  cases place with
  | none => exact waiting
  | some anchor =>
    have above := kept anchor
    rwa [placed] at above

/-- Whatever is recognised in a text is printed. -/
theorem exists_mem_anchors_of_parse {text : Text} {keyFile : KeyFile}
    (parsed : parse text = .ok keyFile) {visit : Visit} (member : visit ∈ visits text)
    (content : visit.isContent = true) :
    ∃ anchor ∈ keyFile.anchors, visit.anchor? = some anchor := by
  obtain ⟨final, run, unfaulted, rfl⟩ := exists_unfaulted_of_parse parsed
  obtain ⟨anchor, recognised, declared, keyed⟩ := Reading.knows_of_mem_visits Reading.proper_empty
    (fun line inner => Reading.not_mem_strip_of_mem_terminatedLines inner) run unfaulted visit
    member content
  refine ⟨anchor, List.mem_flatMap.mpr ⟨anchor.group, ?_, ?_⟩, recognised⟩
  · simpa [groupNames] using declared
  · cases key_eq : anchor.key with
    | none => exact List.mem_cons.mpr (.inl (by rw [← key_eq]))
    | some key =>
      obtain ⟨pieces, found⟩ := keyed key key_eq
      refine List.mem_cons_of_mem _ (List.mem_map.mpr ⟨key, ?_, by rw [← key_eq]⟩)
      rw [mem_keysOf_iff]
      exact ⟨_, by rw [value?_of_reading, found, Option.map_some]⟩

/-- A text prints with all of its comments in their places, unless some line that continues a value
has the form of a header of another group. -/
theorem keepsComments_of_parse {text : Text} {keyFile : KeyFile} (parsed : parse text = .ok keyFile)
    (plain : hidesHeader text = false) : KeepsComments text keyFile := by
  have proper := proper_of_parse parsed
  have own := ownComments_of_parse parsed plain
  have commented : ∀ place, ∀ line ∈ keyFile.ownComments place, IsCommentLine line := by
    intro place
    cases place with
    | none => exact proper.trailed
    | some anchor => exact proper.commented anchor
  have printed : commentLines keyFile.print =
      (keyFile.anchors.map some ++ [none]).flatMap (commentsBefore text) := by
    rw [← own, ← commentsAmong_layout proper commented, commentLines]
    rcases lines_print_eq_layout proper with same | longer
    · rw [same]
    · rw [longer, commentsAmong_append]
      exact List.append_nil _
  have written : (placements (visits text)).map Prod.fst = commentLines text := by
    obtain ⟨final, run, -⟩ := exists_unfaulted_of_parse parsed
    rw [map_fst_placements, visits, Reading.map_content_visits run, ← commentsAmong_terminatedLines]
    rfl
  have distinct : (keyFile.anchors.map some ++ [none]).Nodup := by
    refine List.nodup_append.mpr ⟨?_, by simp, by simp⟩
    exact List.pairwise_map.mpr (keyFile.nodup_anchors.imp fun differs same =>
      differs (Option.some.inj same))
  refine
    { recognised := fun visit member content => exists_mem_anchors_of_parse parsed member content
      placed := own ▸ lines_print_eq_layout proper
      uncommented := ?_
      counted := ?_ }
  · rw [commentsAmong_layout proper (by simp)]
    simp
  · rw [printed, ← written]
    refine perm_flatMap_placedAt distinct ?_
    rintro ⟨comment, place⟩ member
    cases place with
    | none => simp
    | some anchor =>
      obtain ⟨visit, inner, content, here⟩ := exists_visit_of_mem_placements member
      obtain ⟨other, known, recognised⟩ := exists_mem_anchors_of_parse parsed inner content
      obtain rfl : anchor = other := Option.some.inj (here.symm.trans recognised)
      exact List.mem_append_left _ (List.mem_map.mpr ⟨anchor, known, rfl⟩)

/-- What a folded text describes keeps its comments, provided that no line that continues a value
has the form of a header of another group. -/
theorem keepsComments_of_fold {text : Text} {keyFile : KeyFile}
    (parsed : parse (Folding.fold text) = .ok keyFile)
    (plain : hidesHeader (Folding.fold text) = false) :
    KeepsComments (Folding.fold text) keyFile :=
  keepsComments_of_parse parsed plain

/-- Comments above a header, above an entry with a continuation line, and at the end are kept. -/
theorem commented_group_keepsComments : ∃ keyFile,
    parse (Folding.fold (Text.of "# a\n[r]\n# b\nk = 1\n  2\n# c\n")) = .ok keyFile ∧
      KeepsComments (Folding.fold (Text.of "# a\n[r]\n# b\nk = 1\n  2\n# c\n")) keyFile :=
  ⟨_, rfl, keepsComments_of_fold rfl (by decide)⟩

/-- A line that is indented with a no-break space continues the value above it. Where it has the
form of a header, the comments that follow it are lost. -/
theorem comment_below_hidden_header_is_lost : ∃ keyFile,
    parse (Folding.fold (Text.of "[r]\nk = a\n\u00a0[x]\n# c\nj = 1\n")) = .ok keyFile ∧
      keyFile.print = Text.of "[r]\nk = a\n[x]\nj = 1\n" ∧
      ¬KeepsComments (Folding.fold (Text.of "[r]\nk = a\n\u00a0[x]\n# c\nj = 1\n")) keyFile := by
  refine ⟨_, rfl, rfl, fun keeps => ?_⟩
  exact absurd keeps.counted (by decide)

end KeyFile
end PackageRepos
