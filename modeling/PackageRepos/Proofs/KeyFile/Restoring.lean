import PackageRepos.Proofs.KeyFile.Loading
import PackageRepos.Proofs.Text.Utf8

/-!
# Tidy key files

A key file is tidy when every part of it can stand on a line of its own, however the key file came
about. A tidy key file is restored from its printed text: what a group shows only because it is
shared is restored as an entry of the group. From a file it is restored as well, unless its text
holds a carriage return, which files give back as a newline.
-/

namespace PackageRepos
namespace KeyFile

open Text

/-- Everything that a key file prints fits on lines of its own, and no line is taken for one of
another kind. -/
structure Tidy (keyFile : KeyFile) : Prop where
  named : ∀ group ∈ keyFile.groupNames, IsGroupName group
  keyed : ∀ group ∈ keyFile.groupNames, ∀ key ∈ keyFile.keysOf group,
    IsKey key ∧ key.head? ≠ some '['
  valued : ∀ group ∈ keyFile.groupNames, ∀ key value,
    keyFile.value? group key = some value → IsTrimmed value ∧ '\n' ∉ value
  commented : ∀ anchor, ∀ line ∈ keyFile.commentsAt anchor, IsCommentLine line
  anchored : ∀ anchor, anchor ∉ keyFile.anchors → keyFile.commentsAt anchor = []
  trailed : ∀ line ∈ keyFile.trailing, IsCommentLine line

/-- A key file that comes from a text is tidy when its values stand on one line each, no key starts
with a bracket, and all its comments are printed. -/
theorem Proper.tidy {keyFile : KeyFile} (proper : keyFile.Proper) (single : keyFile.SingleLined)
    (unbracketed : ∀ group ∈ keyFile.groupNames, ∀ key ∈ keyFile.keysOf group,
      key.head? ≠ some '[')
    (anchored : ∀ anchor ∈ keyFile.comments.keys, anchor ∈ keyFile.anchors) : keyFile.Tidy := by
  have entry : ∀ group key value, keyFile.value? group key = some value → IsEntry key value :=
    fun group key value found =>
      (proper.stored group key value found).isEntry (single group key value found)
  refine
    { named := proper.named
      keyed := ?_
      valued := fun group _ key value found =>
        ⟨(entry group key value found).value_trimmed, single group key value found⟩
      commented := proper.commented
      anchored := ?_
      trailed := proper.trailed }
  · intro group declared key shown
    obtain ⟨value, found⟩ := mem_keysOf_iff.mp shown
    exact ⟨(entry group key value found).toIsKey, unbracketed group declared key shown⟩
  · intro anchor missing
    rw [commentsAt, OrderedMap.get?_eq_none_iff.mpr fun member => missing (anchored anchor member)]
    rfl

/-! ## Entries spelled out -/

/-- The entries that a group shows. -/
def shownEntries (keyFile : KeyFile) (group : Text) : OrderedMap Text Text :=
  .ofList ((keyFile.keysOf group).map fun key => (key, (keyFile.value? group key).getD []))

/-- The key file in which every group sets all that it shows. -/
def spelledOut (keyFile : KeyFile) : KeyFile :=
  { keyFile with
    groups := keyFile.groups.mapEntries fun group _ => keyFile.shownEntries group
    shared := ∅ }

theorem toList_shownEntries (keyFile : KeyFile) (group : Text) :
    (keyFile.shownEntries group).toList =
      (keyFile.keysOf group).map fun key => (key, (keyFile.value? group key).getD []) := by
  apply OrderedMap.toList_ofList
  simpa [Function.comp_def] using keyFile.nodup_keysOf group

theorem keys_shownEntries (keyFile : KeyFile) (group : Text) :
    (keyFile.shownEntries group).keys = keyFile.keysOf group := by
  simp [OrderedMap.keys, toList_shownEntries, Function.comp_def]

theorem get?_shownEntries (keyFile : KeyFile) (group key : Text) :
    (keyFile.shownEntries group).get? key = keyFile.value? group key := by
  ext value
  rw [OrderedMap.get?_eq_some_iff, toList_shownEntries]
  constructor
  · intro member
    obtain ⟨_, shown, same⟩ := List.mem_map.mp member
    obtain ⟨rfl, rfl⟩ := Prod.mk.inj same
    obtain ⟨_, found⟩ := mem_keysOf_iff.mp shown
    simp [found]
  · intro found
    exact List.mem_map.mpr ⟨key, mem_keysOf_iff.mpr ⟨value, found⟩, by simp [found]⟩

section SpelledOut

variable (keyFile : KeyFile)

@[simp]
theorem groupNames_spelledOut : keyFile.spelledOut.groupNames = keyFile.groupNames :=
  OrderedMap.keys_mapEntries _ _

theorem value?_spelledOut (group key : Text) :
    keyFile.spelledOut.value? group key =
      if group ∈ keyFile.groupNames then keyFile.value? group key else none := by
  rw [value?_of_unshared rfl, spelledOut, OrderedMap.get?_mapEntries]
  split
  · rename_i declared
    obtain ⟨entries, found⟩ := OrderedMap.exists_get?_of_mem declared
    simp [found, get?_shownEntries]
  · rename_i missing
    simp [OrderedMap.get?_eq_none_iff.mpr missing]

theorem keysOf_spelledOut {group : Text} (declared : group ∈ keyFile.groupNames) :
    keyFile.spelledOut.keysOf group = keyFile.keysOf group := by
  obtain ⟨entries, found⟩ := OrderedMap.exists_get?_of_mem declared
  rw [keysOf_of_unshared rfl, spelledOut, OrderedMap.get?_mapEntries, found]
  exact keyFile.keys_shownEntries group

theorem printsAs_spelledOut : keyFile.PrintsAs keyFile.spelledOut where
  groupNames := keyFile.groupNames_spelledOut
  keysOf _ declared := keyFile.keysOf_spelledOut declared
  value? group declared key := by rw [value?_spelledOut, if_pos declared]
  comments _ _ := rfl
  trailing := rfl

end SpelledOut

theorem Lacks.spelledOut {keyFile : KeyFile} {char : Char} (lacks : keyFile.Lacks char) :
    keyFile.spelledOut.Lacks char where
  groups := by simpa using lacks.groups
  entries group key value found := by
    rw [value?_spelledOut] at found
    split at found
    · exact lacks.entries group key value found
    · cases found
  comments := lacks.comments
  trailing := lacks.trailing

namespace Tidy

variable {keyFile : KeyFile} (tidy : keyFile.Tidy)
include tidy

/-- Every entry shown makes a line that is read as that entry. -/
theorem isEntry {group key value : Text} (declared : group ∈ keyFile.groupNames)
    (found : keyFile.value? group key = some value) : IsEntry key value := by
  obtain ⟨proper, unbracketed⟩ :=
    tidy.keyed group declared key (mem_keysOf_iff.mpr ⟨value, found⟩)
  obtain ⟨value_trimmed, value_single⟩ := tidy.valued group declared key value found
  refine { proper with value_trimmed, value_single, unbracketed := ?_ }
  rintro rest rfl
  exact absurd rfl unbracketed

theorem isEntry_spelledOut {group key value : Text}
    (found : keyFile.spelledOut.value? group key = some value) : IsEntry key value := by
  rw [value?_spelledOut] at found
  split at found
  · rename_i declared
    exact tidy.isEntry declared found
  · cases found

theorem proper_spelledOut : keyFile.spelledOut.Proper where
  unshared := rfl
  named := by simpa using tidy.named
  stored _ _ _ found := (tidy.isEntry_spelledOut found).isStored
  commented := tidy.commented
  trailed := tidy.trailed

theorem singleLined_spelledOut : keyFile.spelledOut.SingleLined :=
  fun _ _ _ found => (tidy.isEntry_spelledOut found).value_single

end Tidy

/-! ## Restoring -/

/-- The second key file shows what the first one does, and its comments stand where those of the
first one do. -/
structure Restores (keyFile again : KeyFile) : Prop extends PrintsAs keyFile again where
  everywhere : ∀ anchor, again.commentsAt anchor = keyFile.commentsAt anchor

theorem Reprints.restores {keyFile again : KeyFile} (tidy : keyFile.Tidy)
    (reprints : keyFile.spelledOut.Reprints again) : keyFile.Restores again where
  toPrintsAs := keyFile.printsAs_spelledOut.trans reprints.printsAs
  everywhere anchor := by
    have same_anchors := keyFile.printsAs_spelledOut.anchors
    by_cases anchored : anchor ∈ keyFile.anchors
    · exact reprints.comments anchor (same_anchors ▸ anchored)
    · rw [tidy.anchored anchor anchored]
      exact reprints.unanchored anchor (same_anchors ▸ anchored)

theorem Tidy.exists_restores {keyFile : KeyFile} (tidy : keyFile.Tidy) :
    ∃ again, parse keyFile.print = .ok again ∧ keyFile.Restores again := by
  obtain ⟨again, parsed, reprints⟩ :=
    parse_print tidy.proper_spelledOut tidy.singleLined_spelledOut
  rw [keyFile.printsAs_spelledOut.print] at parsed
  exact ⟨again, parsed, reprints.restores tidy⟩

theorem Tidy.fold_print {keyFile : KeyFile} (tidy : keyFile.Tidy)
    (untabbed : keyFile.Lacks '\t') : Folding.fold keyFile.print = keyFile.print := by
  rw [← keyFile.printsAs_spelledOut.print]
  exact tidy.proper_spelledOut.fold_print untabbed.spelledOut

/-- A file with a text that folding leaves alone is loaded as a key file that prints to the text
exactly when the text is parsed as that key file and holds no carriage return. -/
theorem loadFile_eq_ok_iff_of_fold {tree : Files.Tree} {path : Files.Path} {text : Text}
    {keyFile : KeyFile} (stored : tree.readExact path.toText = .ok text)
    (folded : Folding.fold text = text) (parsed : parse text = .ok keyFile)
    (prints : keyFile.print = text) :
    (loadFile tree path).1 = .ok keyFile ↔ '\r' ∉ text := by
  constructor
  · intro loaded
    have returnless := (sound_of_loadFile loaded).returnless
    exact prints ▸ returnless.not_mem_print (by decide) (by decide)
  · intro returnless
    have read := readText_eq_ok.mpr ⟨text, stored, unifyNewlines_of_not_mem returnless⟩
    exact loadFile_eq_ok.mpr ⟨text, read, by rwa [folded]⟩

/-- A tidy key file is restored from its printed text. Without tabs, folding leaves the text alone,
and a file with the text is loaded as the same key file unless the text holds a carriage return. -/
theorem restores_of_print {keyFile : KeyFile} (tidy : keyFile.Tidy) :
    ∃ again, parse keyFile.print = .ok again ∧ keyFile.Restores again ∧
      again.print = keyFile.print ∧
      (keyFile.Lacks '\t' →
        Folding.fold keyFile.print = keyFile.print ∧
          ∀ tree path, tree.readExact (Files.Path.toText path) = .ok keyFile.print →
            ((loadFile tree path).1 = .ok again ↔ '\r' ∉ keyFile.print)) := by
  obtain ⟨again, parsed, restores⟩ := tidy.exists_restores
  have prints := restores.toPrintsAs.print
  refine ⟨again, parsed, restores, prints, fun untabbed => ⟨tidy.fold_print untabbed, ?_⟩⟩
  intro tree path stored
  exact loadFile_eq_ok_iff_of_fold stored (tidy.fold_print untabbed) parsed prints

/-- The path of a file. -/
def samplePath : Files.Path := Files.Path.ofText (Text.of "a.repo")

/-- A tree with one file. -/
def holding (text : Text) : Files.Tree :=
  { nodes := OrderedMap.insert ∅ [Text.of "a.repo"] (.file (Utf8.encode text)) }

theorem readExact_holding (text : Text) :
    (holding text).readExact samplePath.toText = .ok text := by
  have bytes : (holding text).read samplePath.toText = .ok (Utf8.encode text) := rfl
  simp [Files.Tree.readExact, bytes, Utf8.decode_encode]

/-- Brackets, signs and comments come back, and from a file as well. -/
theorem bracketed_group_restored : ∃ keyFile again,
    parse (Text.of "# a\n[x]y]\n# b\nk = [=#]\nj =\n# c\n") = .ok keyFile ∧ keyFile.Tidy ∧
      parse keyFile.print = .ok again ∧ keyFile.Restores again ∧
      (loadFile (holding keyFile.print) samplePath).1 = .ok again := by
  obtain ⟨keyFile, parsed, unbracketed, anchored, returnless⟩ : ∃ keyFile,
      parse (Text.of "# a\n[x]y]\n# b\nk = [=#]\nj =\n# c\n") = .ok keyFile ∧
        (∀ group ∈ keyFile.groupNames, ∀ key ∈ keyFile.keysOf group, key.head? ≠ some '[') ∧
        (∀ anchor ∈ keyFile.comments.keys, anchor ∈ keyFile.anchors) ∧
        '\r' ∉ keyFile.print :=
    ⟨_, rfl, by decide, by decide, by decide⟩
  have tidy : keyFile.Tidy := (proper_of_parse parsed).tidy
    (singleLined_of_hasContinuation parsed (by decide)) unbracketed anchored
  have untabbed : keyFile.Lacks '\t' := lacks_of_parse (by decide) (by decide) parsed
  obtain ⟨again, restored, restores, -, files⟩ := restores_of_print tidy
  obtain ⟨-, loads⟩ := files untabbed
  exact ⟨keyFile, again, parsed, tidy, restored, restores,
    (loads (holding keyFile.print) samplePath (readExact_holding _)).mpr returnless⟩

/-- A value with a carriage return is restored from the printed text, but not from a file with it:
loading takes the carriage return for a newline. -/
theorem carriage_return_is_not_loaded : ∃ keyFile,
    keyFile.Tidy ∧ keyFile.Lacks '\t' ∧ keyFile.print = Text.of "[r]\nk = a\rb\n" ∧
      parse keyFile.print = .ok keyFile ∧
      (holding keyFile.print).readExact samplePath.toText = .ok keyFile.print ∧
      (loadFile (holding keyFile.print) samplePath).1 ≠ .ok keyFile := by
  obtain ⟨keyFile, parsed, printed, unbracketed, anchored⟩ : ∃ keyFile,
      parse (Text.of "[r]\nk = a\rb\n") = .ok keyFile ∧
        keyFile.print = Text.of "[r]\nk = a\rb\n" ∧
        (∀ group ∈ keyFile.groupNames, ∀ key ∈ keyFile.keysOf group, key.head? ≠ some '[') ∧
        ∀ anchor ∈ keyFile.comments.keys, anchor ∈ keyFile.anchors :=
    ⟨_, rfl, rfl, by decide, by decide⟩
  have tidy : keyFile.Tidy := (proper_of_parse parsed).tidy
    (singleLined_of_hasContinuation parsed (by decide)) unbracketed anchored
  have untabbed : keyFile.Lacks '\t' := lacks_of_parse (by decide) (by decide) parsed
  refine ⟨keyFile, tidy, untabbed, printed, printed ▸ parsed, readExact_holding _, fun loaded => ?_⟩
  have absent := (sound_of_loadFile loaded).returnless.not_mem_print (by decide) (by decide)
  rw [printed] at absent
  exact absent (by decide)

end KeyFile
end PackageRepos
