import PackageRepos.KeyFile.Loading
import PackageRepos.Proofs.Folding
import PackageRepos.Proofs.KeyFile.RoundTrip

/-!
# Key files in files

A key file that was loaded holds no tab and no carriage return, so that neither folding nor the
newlines of the file stand between its printed text and the key file that is loaded again.
-/

namespace PackageRepos
namespace KeyFile

open Text

/-- A key file as files describe it. -/
structure Sound (keyFile : KeyFile) : Prop extends Proper keyFile where
  untabbed : keyFile.Lacks '\t'
  returnless : keyFile.Lacks '\r'

theorem loadFile_eq_ok {tree : Files.Tree} {path : Files.Path} {keyFile : KeyFile} :
    (loadFile tree path).1 = .ok keyFile ↔
      ∃ text, tree.readText path.toText = .ok text ∧ parse (Folding.fold text) = .ok keyFile := by
  unfold loadFile load
  simp only
  cases tree.readText path.toText with
  | error fault => simp
  | ok text =>
    simp only [Except.ok.injEq, exists_eq_left']
    cases parse (Folding.fold text) with
    | error fault => exact ⟨fun same => (nomatch same), fun same => (nomatch same)⟩
    | ok found => exact ⟨fun same => congrArg Except.ok (Except.ok.inj same),
        fun same => congrArg Except.ok (Except.ok.inj same)⟩

theorem readText_eq_ok {tree : Files.Tree} {path text : Text} :
    tree.readText path = .ok text ↔
      ∃ stored, tree.readExact path = .ok stored ∧ unifyNewlines stored = text := by
  unfold Files.Tree.readText
  cases tree.readExact path <;> simp [Except.map]

/-- Every key file that is loaded is sound. -/
theorem sound_of_loadFile {tree : Files.Tree} {path : Files.Path} {keyFile : KeyFile}
    (loaded : (loadFile tree path).1 = .ok keyFile) : keyFile.Sound := by
  obtain ⟨text, read, parsed⟩ := loadFile_eq_ok.mp loaded
  obtain ⟨stored, -, rfl⟩ := readText_eq_ok.mp read
  refine { proper_of_parse parsed with untabbed := ?_, returnless := ?_ }
  · refine lacks_of_parse (by decide) ?_ parsed
    exact Folding.not_mem_fold (.inr rfl) (by decide) (by decide) (by decide)
  · refine lacks_of_parse (by decide) ?_ parsed
    exact Folding.not_mem_fold (.inl (not_mem_unifyNewlines stored)) (by decide) (by decide)
      (by decide)

/-- No printed line is taken for the continuation of another one. -/
theorem Proper.fold_print {keyFile : KeyFile} (proper : keyFile.Proper)
    (untabbed : keyFile.Lacks '\t') : Folding.fold keyFile.print = keyFile.print := by
  refine Folding.fold_eq_self (untabbed.not_mem_print (by decide) (by decide)) ?_
  intro line tail_member
  have member := List.mem_of_mem_tail tail_member
  obtain ⟨rows, rows_eq, body_eq⟩ := lines_print keyFile
  have flush : IsFlush line := by
    rw [rows_eq] at member
    rcases List.mem_append.mp member with inner | last
    · apply proper.isFlush_of_mem_bodyLines
      rcases body_eq with same | blank
      · rwa [same]
      · rw [blank]
        exact List.mem_append_left _ inner
    · rw [List.mem_singleton.mp last]
      exact isFlush_nil
  cases line with
  | nil => rfl
  | cons char rest =>
    have solid : isBlank char = false := isFlush_cons.mp flush
    have other : char ≠ ' ' := by
      rintro rfl
      simp [isBlank] at solid
    simp [Folding.isContinuation, other]

theorem Sound.fold_print {keyFile : KeyFile} (sound : keyFile.Sound) :
    Folding.fold keyFile.print = keyFile.print :=
  sound.toProper.fold_print sound.untabbed

/-- Loading from a file that holds the printed text parses that text. -/
theorem Sound.loadFile_eq_ok {keyFile again : KeyFile} (sound : keyFile.Sound) {tree : Files.Tree}
    {path : Files.Path} (stored : tree.readExact path.toText = .ok keyFile.print) :
    (loadFile tree path).1 = .ok again ↔ parse keyFile.print = .ok again := by
  have unified : unifyNewlines keyFile.print = keyFile.print :=
    unifyNewlines_of_not_mem (sound.returnless.not_mem_print (by decide) (by decide))
  have read : tree.readText path.toText = .ok keyFile.print :=
    readText_eq_ok.mpr ⟨_, stored, unified⟩
  simp [KeyFile.loadFile_eq_ok, read, sound.fold_print]

/-- A key file whose values stand on one line each is loaded again from its printed text, and only
such a key file has all its values again. -/
theorem Sound.loads_again_iff {keyFile : KeyFile} (sound : keyFile.Sound) {tree : Files.Tree}
    {path : Files.Path} (stored : tree.readExact path.toText = .ok keyFile.print) :
    (∃ again, (loadFile tree path).1 = .ok again ∧
      ∀ group key, again.value? group key = keyFile.value? group key) ↔ keyFile.SingleLined := by
  constructor
  · rintro ⟨again, loaded, same⟩ group key value found
    have single := sound.singleLined_of_parse_print ((sound.loadFile_eq_ok stored).mp loaded)
    exact single group key value ((same group key).trans found)
  · intro single
    obtain ⟨again, parsed, reprints⟩ := parse_print sound.toProper single
    exact ⟨again, (sound.loadFile_eq_ok stored).mpr parsed, reprints.value?⟩

end KeyFile
end PackageRepos
