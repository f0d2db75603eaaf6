import PackageRepos.Proofs.KeyFile.SpreadValue
import PackageRepos.Proofs.Workspace.Access

/-!
# Lists on several lines of a file

A list that is spread over indented lines is read with the items of all its lines, unless an item
is glued to the end of a line before it: that happens after an equals sign at the end of a line, and
only there.
-/

namespace PackageRepos
namespace Workspace

open Folding OptionKind

/-- A file with a value on several lines is loaded with one entry, which has the folded value for
the option. -/
theorem exists_parse_spread (value : KeyFile.SpreadValue) {id : Text} (nonempty : id ≠ [])
    (single : '\n' ∉ id) (option : RepoOption) (ended : Bool) {workspace : Workspace} {name : Text}
    (read : workspace.tree.readText (Files.Path.ofText name).toText =
      .ok (value.text id (Text.of option.key) ended)) (number : Nat) :
    ∃ handle opened entry, workspace.parse number name = (.ok [handle], opened) ∧
      opened.entryAt? handle = some entry ∧ entry.id = untabbed id ∧
      opened.get entry (.registered option) =
        outcomeOf (some (Files.Path.ofText name)) entry.id option
          (some (Text.strip value.folded)) := by
  have key_line : Text.IsLine (Text.of option.key) :=
    ⟨fun tab => absurd (RepoOption.of_mem_key tab).1 (by decide),
      fun newline => absurd (RepoOption.of_mem_key newline).1 (by decide)⟩
  have trimmed := Text.isTrimmed_strip value.folded
  have key := (option.isEntry_key Text.isTrimmed_nil (by simp)).toIsKey
  have split := value.lines_fold single key_line ended key.trimmed.1 key.nonempty
  have folded_single : '\n' ∉ Text.strip value.folded := by
    have entry_member : KeyFile.entryLine (Text.of option.key) value.folded ∈
        Text.lines (fold (value.text id (Text.of option.key) ended)) := by simp [split]
    have line_single := (Text.of_mem_lines entry_member).1
    exact fun newline => line_single (List.mem_append_right _ (Text.strip_subset _ newline))
  have named : KeyFile.IsGroupName (untabbed id) :=
    ⟨by simpa [untabbed] using nonempty, not_mem_untabbed (.inl single) (by decide)⟩
  obtain ⟨keyFile, parsed, groups, stored⟩ :=
    KeyFile.exists_parse_eq_ok named (option.isEntry_key trimmed folded_single) split
  obtain ⟨handles, opened, parse_eq, registered⟩ :=
    parse_of_loadFile (KeyFile.loadFile_eq_ok.mpr ⟨_, read, parsed⟩) number
  have entries_eq := registered.entries
  have handles_eq := registered.numbered
  rw [groups] at entries_eq handles_eq
  have owned : opened.fileOf? { id := untabbed id, file := some workspace.files.length } =
      some { path := Files.Path.ofText name, keyFile } := registered.fileAt?
  refine ⟨workspace.entries.length, opened,
    { id := untabbed id, file := some workspace.files.length }, ?_, ?_, rfl, ?_⟩
  · rw [parse_eq, handles_eq]
    rfl
  · rw [entryAt?, entries_eq]
    simp
  · rw [get_of_fileOf? owned (by simp [groups]) option, stored]

/-- A list reads as the items of its glued pieces. -/
theorem outcomeOf_folded (value : KeyFile.SpreadValue) {option : RepoOption}
    (kind : option.kind = .list) (path : Files.Path) (id : Text) :
    outcomeOf (some path) id option (some (Text.strip value.folded)) =
      .ok (.list (((gluedOnto value.first value.below).flatMap listItems).map .text)) := by
  have separates : isSeparator ';' = true := rfl
  have items_eq : listItems (Text.strip value.folded) =
      (gluedOnto value.first value.below).flatMap listItems := by
    rw [listItems_strip, KeyFile.SpreadValue.folded, listItems_join_eq separates]
  rw [← items_eq]
  simp [outcomeOf, kind, OptionSpec.decode, decode]

/-- A list that is spread over several lines is read with the items of each line, one line after the
other, exactly when no item is glued to the end of a line before it. -/
theorem reads_spread_list (value : KeyFile.SpreadValue) {id : Text} (nonempty : id ≠ [])
    (single : '\n' ∉ id) {option : RepoOption} (kind : option.kind = .list) (ended : Bool)
    {workspace : Workspace} {name : Text}
    (read : workspace.tree.readText (Files.Path.ofText name).toText =
      .ok (value.text id (Text.of option.key) ended)) (number : Nat) :
    ∃ handle opened entry, workspace.parse number name = (.ok [handle], opened) ∧
      opened.entryAt? handle = some entry ∧ entry.id = untabbed id ∧
      opened.get entry (.registered option) =
        .ok (.list (((gluedOnto value.first value.below).flatMap listItems).map .text)) ∧
      (opened.get entry (.registered option) =
          .ok (.list ((value.contents.flatMap listItems).map .text)) ↔
        ¬Glues value.first value.below) := by
  obtain ⟨handle, opened, entry, parsed, stands, named, got⟩ :=
    exists_parse_spread value nonempty single option ended read number
  rw [outcomeOf_folded value kind] at got
  refine ⟨handle, opened, entry, parsed, stands, named, got, ?_⟩
  rw [got, ← items_gluedOnto_eq_iff, KeyFile.SpreadValue.contents]
  have injective : Function.Injective Value.text := fun _ _ => Value.text.inj
  rw [Except.ok.injEq, Value.list.injEq, injective.list_map.eq_iff]

/-- A short list on three lines, one of which ends with an equals sign. -/
def shortList : KeyFile.SpreadValue where
  first := Text.of "a b"
  first_line := ⟨by decide, by decide⟩
  further := [⟨Text.of "\t ", Text.of "c=", by decide, by decide, by decide, by decide⟩,
    ⟨Text.of "  ", Text.of ",d", by decide, by decide, by decide, by decide⟩]

theorem short_list_is_read : ∃ handle opened entry,
    (withFile sampleName (Text.of "[r]\nbaseurl = a b\n\t c=\n  ,d\n")).parse 0 sampleName =
        (.ok [handle], opened) ∧
      opened.entryAt? handle = some entry ∧
      opened.get entry (.registered .baseurl) = .ok (.list
        [.text (Text.of "a"), .text (Text.of "b"), .text (Text.of "c="), .text (Text.of "d")]) := by
  have text_eq : Text.of "[r]\nbaseurl = a b\n\t c=\n  ,d\n" =
      shortList.text (Text.of "r") (Text.of RepoOption.baseurl.key) true := rfl
  have read := readText_withFile
    (by decide : '\r' ∉ Text.of "[r]\nbaseurl = a b\n\t c=\n  ,d\n")
  obtain ⟨handle, opened, entry, parsed, stands, -, -, exact_iff⟩ :=
    reads_spread_list shortList (by decide) (by decide) rfl true (read.trans (congrArg _ text_eq)) 0
  exact ⟨handle, opened, entry, parsed, stands, exact_iff.mpr (by decide)⟩

/-- A list on two lines, the first of which ends with the equals sign of a query. -/
def queryList : KeyFile.SpreadValue where
  first := Text.of "http://a/?q="
  first_line := ⟨by decide, by decide⟩
  further := [⟨Text.of "  ", Text.of "http://b/", by decide, by decide, by decide, by decide⟩]

/-- The two addresses become one. -/
theorem query_address_is_glued :
    queryList.contents.flatMap listItems = [Text.of "http://a/?q=", Text.of "http://b/"] ∧
    ∃ handle opened entry,
      (withFile sampleName (Text.of "[r]\nbaseurl = http://a/?q=\n  http://b/\n")).parse 0
          sampleName = (.ok [handle], opened) ∧
        opened.entryAt? handle = some entry ∧
        opened.get entry (.registered .baseurl) =
          .ok (.list [.text (Text.of "http://a/?q=http://b/")]) := by
  refine ⟨rfl, ?_⟩
  have text_eq : Text.of "[r]\nbaseurl = http://a/?q=\n  http://b/\n" =
      queryList.text (Text.of "r") (Text.of RepoOption.baseurl.key) true := rfl
  have read := readText_withFile
    (by decide : '\r' ∉ Text.of "[r]\nbaseurl = http://a/?q=\n  http://b/\n")
  obtain ⟨handle, opened, entry, parsed, stands, named, got⟩ :=
    exists_parse_spread queryList (by decide) (by decide) .baseurl true
      (read.trans (congrArg _ text_eq)) 0
  rw [outcomeOf_folded queryList rfl] at got
  exact ⟨handle, opened, entry, parsed, stands, got⟩

end Workspace
end PackageRepos
