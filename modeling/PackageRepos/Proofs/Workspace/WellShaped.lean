import PackageRepos.Proofs.Workspace.Persistence

/-!
# The shape that edits keep

What every key file that comes from a text looks like: its names, its keys and the lines of its
values. Setting options of its sections keeps it that way.
-/

namespace PackageRepos

namespace KeyFile

open Text

/-- The shape of a loaded key file. -/
structure WellShaped (keyFile : KeyFile) : Prop where
  distinct : keyFile.groupNames.Nodup
  /-- Names of groups are neither empty nor hold newlines. -/
  named : ∀ group ∈ keyFile.groupNames, IsGroupName group
  distinct_keys : ∀ group ∈ keyFile.groupNames, (keyFile.keysOf group).Nodup
  /-- Keys are not empty, without blanks around them, without an equals sign or a newline, and do
  not start as a comment does. -/
  keyed : ∀ group ∈ keyFile.groupNames, ∀ key ∈ keyFile.keysOf group, IsKey key
  /-- No value ends with a blank. -/
  ended : ∀ group key value, keyFile.value? group key = some value → IsFlush value.reverse
  /-- The lines of a value after its first one are not empty, without blanks around them, and are
  no comments. -/
  further : ∀ group key value, keyFile.value? group key = some value →
    ∀ line ∈ (lines value).tail, IsFurtherLine line
  /-- A group sets each of its keys itself. -/
  own : ∀ group ∈ keyFile.groupNames, ∀ key ∈ keyFile.keysOf group,
    ∃ entries, keyFile.groups.get? group = some entries ∧ key ∈ entries.keys

theorem IsStored.isKey {key value : Text} (stored : IsStored key value) : IsKey key := by
  obtain ⟨_, ⟨_, _, _, entry, _⟩, _⟩ := stored
  exact entry.toIsKey

theorem IsStored.ended {key value : Text} (stored : IsStored key value) :
    IsFlush value.reverse := by
  obtain ⟨pieces, stored, rfl⟩ := stored
  rw [← joinValue_of_areStored stored]
  exact isFlush_reverse_stripRight _

/-- The lines of a stored value are the lines that were stored. -/
theorem IsStored.further {key value : Text} (stored : IsStored key value) :
    ∀ line ∈ (lines value).tail, IsFurtherLine line := by
  obtain ⟨_, ⟨first, further, rfl, entry, proper⟩, rfl⟩ := stored
  have single : ∀ piece ∈ first :: further, '\n' ∉ piece := by
    intro piece member
    rcases List.mem_cons.mp member with rfl | later
    · exact entry.value_single
    · exact (proper piece later).single
  rw [lines_unlines single (by simp)]
  exact proper

/-- A proper key file is well shaped: what it shows is stored, and nothing is shared. -/
theorem Proper.wellShaped {keyFile : KeyFile} (proper : keyFile.Proper) : keyFile.WellShaped where
  distinct := keyFile.groups.keys_nodup
  named := proper.named
  distinct_keys group _ := nodup_keysOf keyFile group
  keyed group _ key member := by
    obtain ⟨value, shown⟩ := mem_keysOf_iff.mp member
    exact (proper.stored group key value shown).isKey
  ended group key value shown := (proper.stored group key value shown).ended
  further group key value shown := (proper.stored group key value shown).further
  own group _ key member := by
    rw [keysOf_of_unshared proper.unshared] at member
    cases found : keyFile.groups.get? group with
    | none => simp [found] at member
    | some entries => exact ⟨entries, rfl, by simpa [found] using member⟩

theorem parse_of_load {text source : Text} {keyFile : KeyFile} {events : List Event}
    (loaded : load text source = (.ok keyFile, events)) : parse text = .ok keyFile := by
  unfold load at loaded
  split at loaded
  · cases loaded
  · rename_i made parsed
    cases loaded
    exact parsed

end KeyFile

namespace Workspace

/-- The entries with these handles stand for sections of a file. -/
structure Reaches (workspace : Workspace) (handles : List Nat) (file : Nat) (loaded : LoadedFile) :
    Prop where
  found : workspace.fileAt? file = some loaded
  entries : ∀ handle ∈ handles, ∃ id ∈ loaded.keyFile.groupNames,
    workspace.entryAt? handle = some { id := id, file := some file }

/-- One set of an entry assigns to its section what one line can hold. -/
theorem Reaches.set {workspace next : Workspace} {handles : List Nat} {file : Nat}
    {loaded : LoadedFile} (reaches : workspace.Reaches handles file loaded)
    (proper : loaded.keyFile.Proper) {handle : Nat} {entry : Entry} {option : RepoOption}
    {value : Value} (listed : handle ∈ handles) (stands : workspace.entryAt? handle = some entry)
    (done : workspace.set entry (.registered option) value = (.ok (), next)) :
    ∃ keyFile, keyFile.Proper ∧
      next.Reaches handles file { loaded with keyFile := keyFile } := by
  obtain ⟨id, declared, stands_again⟩ := reaches.entries handle listed
  rw [stands, Option.some.injEq] at stands_again
  subst stands_again
  obtain ⟨change, changed, shown, same⟩ :=
    exists_assign_of_set reaches.found proper.plain declared done
  have entry : ∀ text, change = some text → KeyFile.IsEntry (Text.of option.key) text := by
    rintro text rfl
    exact (RepoOption.storable_of_change changed).toIsEntry
  refine ⟨_, proper.assign declared entry, shown, ?_⟩
  intro other member
  obtain ⟨name, other_declared, other_stands⟩ := reaches.entries other member
  refine ⟨name, ?_, (same other).trans other_stands⟩
  rwa [KeyFile.groupNames_assign (KeyFile.hasGroup_iff.mpr declared)]

/-- Any number of sets leaves a proper key file, which the same entries stand for. -/
theorem Reaches.sets {handles : List Nat} {workspace final : Workspace} {changes : List Change}
    (sets : Sets handles workspace changes final) {file : Nat} {loaded : LoadedFile}
    (reaches : workspace.Reaches handles file loaded) (proper : loaded.keyFile.Proper) :
    ∃ keyFile, keyFile.Proper ∧
      final.Reaches handles file { loaded with keyFile := keyFile } := by
  induction sets generalizing loaded with
  | refl workspace => exact ⟨loaded.keyFile, proper, reaches⟩
  | step listed stands done rest ih =>
    obtain ⟨keyFile, next_proper, next_reaches⟩ := reaches.set proper listed stands done
    obtain ⟨final_keyFile, final_proper, final_reaches⟩ := ih next_reaches next_proper
    exact ⟨final_keyFile, final_proper, final_reaches⟩

/-- A key file that was loaded from a text is well shaped, and stays so whatever is set through
entries that stand for its groups. -/
theorem wellShaped_of_sets {text source : Text} {keyFile : KeyFile} {events : List Event}
    (loaded : KeyFile.load text source = (.ok keyFile, events)) :
    keyFile.WellShaped ∧
      ∀ (workspace final : Workspace) (handles : List Nat) (file : Nat) (path : Files.Path)
        (changes : List Change),
        workspace.Reaches handles file { path := path, keyFile := keyFile } →
        Sets handles workspace changes final →
        ∃ after, final.Reaches handles file { path := path, keyFile := after } ∧
          after.WellShaped := by
  have proper := KeyFile.proper_of_parse (KeyFile.parse_of_load loaded)
  refine ⟨proper.wellShaped, ?_⟩
  intro workspace final handles file path changes reaches sets
  obtain ⟨after, after_proper, after_reaches⟩ := reaches.sets sets proper
  exact ⟨after, after_reaches, after_proper.wellShaped⟩

/-- A text whose value stands on two lines. -/
def spreadText : Text := Text.of "[r]\nbaseurl = http://a/\n  http://b/\n"

/-- A workspace with one file and one entry, which stands for a section of the file. -/
def reaching (keyFile : KeyFile) (id : Text) : Workspace :=
  { files := [{ path := Files.Path.ofText sampleName, keyFile := keyFile }]
    entries := [{ id := id, file := some 0 }] }

theorem reaches_reaching {keyFile : KeyFile} {id : Text} (declared : id ∈ keyFile.groupNames) :
    (reaching keyFile id).Reaches [0] 0
      { path := Files.Path.ofText sampleName, keyFile := keyFile } where
  found := rfl
  entries handle member := by
    obtain rfl := List.mem_singleton.mp member
    exact ⟨id, declared, rfl⟩

/-- The section of the text is given a name and loses its locations. -/
theorem spread_text_wellShaped : ∃ keyFile events workspace edited after,
    KeyFile.load spreadText KeyFile.defaultSource = (.ok keyFile, events) ∧
      Sets [0] workspace
        [⟨Text.of "r", .name, .text (Text.of "x")⟩, ⟨Text.of "r", .baseurl, .absent⟩] edited ∧
      edited.Reaches [0] 0 { path := Files.Path.ofText sampleName, keyFile := after } ∧
      keyFile.WellShaped ∧ after.WellShaped := by
  obtain ⟨keyFile, loaded, declared, next, edited, named, stands, erased⟩ : ∃ keyFile,
      KeyFile.load spreadText KeyFile.defaultSource =
        (.ok keyFile, [.parsed KeyFile.defaultSource 1 0]) ∧
      keyFile.groupNames = [Text.of "r"] ∧ ∃ next edited,
      (reaching keyFile (Text.of "r")).set { id := Text.of "r", file := some 0 }
        (.registered .name) (.text (Text.of "x")) = (.ok (), next) ∧
      next.entryAt? 0 = some { id := Text.of "r", file := some 0 } ∧
      next.set { id := Text.of "r", file := some 0 } (.registered .baseurl) .absent =
        (.ok (), edited) :=
    ⟨_, rfl, rfl, _, _, rfl, rfl, rfl⟩
  have reaches := reaches_reaching (by simp [declared] : Text.of "r" ∈ keyFile.groupNames)
  have sets : Sets [0] (reaching keyFile (Text.of "r")) [⟨Text.of "r", .name, .text (Text.of "x")⟩,
      ⟨Text.of "r", .baseurl, .absent⟩] edited :=
    .step List.mem_cons_self rfl named (.step List.mem_cons_self stands erased (.refl edited))
  obtain ⟨wellShaped, kept⟩ := wellShaped_of_sets loaded
  obtain ⟨after, after_reaches, after_wellShaped⟩ := kept _ _ _ _ _ _ reaches sets
  exact ⟨keyFile, _, _, edited, after, loaded, sets, after_reaches, wellShaped, after_wellShaped⟩

end Workspace
end PackageRepos
