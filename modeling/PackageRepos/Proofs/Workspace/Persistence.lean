import PackageRepos.Proofs.RepoOption.Legality
import PackageRepos.Proofs.Workspace.Access

/-!
# What was set survives saving

A file whose entries were set in any way is saved and loaded again: its sections, what their options
read as, its other keys and its comments are as they were before the save.
-/

namespace PackageRepos

namespace Workspace

/-! ## Outcomes -/

/-- The outcome that a file at another path has: its errors name that path. -/
def relocated (path : Files.Path) : Except Failure Value → Except Failure Value
  | .error (.error error) =>
    .error (.error { error with path := error.path.map fun _ => path.toText })
  | outcome => outcome

theorem relocated_explain {spec : OptionSpec} {failure : Failure}
    (valued : ∀ error, failure = .error error → error.category = .value) (path other : Files.Path) :
    relocated other (explain spec path.toText failure) = explain spec other.toText failure := by
  cases failure with
  | error error => simp [explain, valued error rfl, relocated]
  | lookup fault =>
    cases fault with
    | noGroup group => rfl
    | noKey key group =>
      simp only [explain]
      split <;> rfl
  | _ => rfl

/-- Outcomes depend on the path only in what their errors name. -/
theorem relocated_outcomeOf (path other : Files.Path) (id : Text) (option : RepoOption)
    (stored : Option Text) :
    relocated other (outcomeOf (some path) id option stored) =
      outcomeOf (some other) id option stored := by
  unfold outcomeOf
  by_cases fixed : option.kind = .id
  · simp [fixed, relocated]
  · simp only [fixed, if_false]
    cases stored with
    | none =>
      refine relocated_explain ?_ path other
      rintro error ⟨⟩
    | some raw =>
      cases decoded : option.spec.decode raw with
      | ok value => simp only [decoded, relocated]
      | error failure =>
        simp only [decoded]
        refine relocated_explain ?_ path other
        rintro error rfl
        exact OptionKind.category_of_decode decoded

/-- What reading an option of the entry with a handle comes to. -/
def read? (workspace : Workspace) (option : RepoOption) (handle : Nat) :
    Option (Except Failure Value) :=
  (workspace.entryAt? handle).map fun entry => workspace.get entry (.registered option)

/-- The entries with these handles stand for the sections of a file. -/
structure Holds (workspace : Workspace) (handles : List Nat) (file : Nat) (loaded : LoadedFile) :
    Prop where
  found : workspace.fileAt? file = some loaded
  entries : handles.map workspace.entryAt? =
    loaded.keyFile.groupNames.map fun id => some { id := id, file := some file }

section Holds

variable {workspace : Workspace} {handles : List Nat} {file : Nat} {loaded : LoadedFile}
  (holds : workspace.Holds handles file loaded)

include holds

theorem Holds.ids : handles.map workspace.idAt? = loaded.keyFile.groupNames.map some := by
  have ids := congrArg (List.map (Option.map Entry.id)) holds.entries
  rw [List.map_map, List.map_map] at ids
  exact ids

theorem Holds.entry {handle : Nat} (member : handle ∈ handles) :
    ∃ id ∈ loaded.keyFile.groupNames,
      workspace.entryAt? handle = some { id := id, file := some file } := by
  have shown : workspace.entryAt? handle ∈ handles.map workspace.entryAt? :=
    List.mem_map_of_mem member
  rw [holds.entries] at shown
  obtain ⟨id, declared, stands⟩ := List.mem_map.mp shown
  exact ⟨id, declared, stands.symm⟩

/-- What the options of the entries read as is a matter of the key file. -/
theorem Holds.read (option : RepoOption) : handles.map (workspace.read? option) =
    loaded.keyFile.groupNames.map fun id => some (outcomeOf (some loaded.path) id option
      (loaded.keyFile.value? id (Text.of option.key))) := by
  have outcomes := congrArg
    (List.map (Option.map fun entry => workspace.get entry (.registered option))) holds.entries
  rw [List.map_map, List.map_map] at outcomes
  refine Eq.trans outcomes (List.map_congr_left fun id declared => ?_)
  have owned : workspace.fileOf? { id := id, file := some file } = some loaded := holds.found
  exact congrArg some (get_of_fileOf? owned declared option)

theorem Holds.read_relocated (option : RepoOption) (path : Files.Path) :
    (handles.map fun handle => (workspace.read? option handle).map (relocated path)) =
      loaded.keyFile.groupNames.map fun id => some (outcomeOf (some path) id option
        (loaded.keyFile.value? id (Text.of option.key))) := by
  have outcomes := congrArg (List.map (Option.map (relocated path))) (holds.read option)
  rw [List.map_map, List.map_map] at outcomes
  refine Eq.trans outcomes (List.map_congr_left fun id _ => congrArg some ?_)
  exact relocated_outcomeOf loaded.path path id option _

end Holds

theorem Registered.holds {workspace after : Workspace} {number : Nat} {path : Files.Path}
    {keyFile : KeyFile} {handles : List Nat}
    (registered : Registered workspace number path keyFile handles after) :
    after.Holds handles workspace.files.length { path := path, keyFile := keyFile } :=
  ⟨registered.fileAt?, registered.added⟩

/-! ## Setting -/

/-- An option of a section and the value that it is set to. -/
structure Change where
  group : Text
  option : RepoOption
  value : Value

/-- Sets of entries with these handles, one after the other, all of which succeed. -/
inductive Sets (handles : List Nat) : Workspace → List Change → Workspace → Prop
  | refl (workspace : Workspace) : Sets handles workspace [] workspace
  | step {workspace next final : Workspace} {handle : Nat} {entry : Entry} {option : RepoOption}
      {value : Value} {further : List Change} (listed : handle ∈ handles)
      (stands : workspace.entryAt? handle = some entry)
      (done : workspace.set entry (.registered option) value = (.ok (), next))
      (rest : Sets handles next further final) :
      Sets handles workspace (⟨entry.id, option, value⟩ :: further) final

/-- One of the changes removed the key from the section. -/
def Removes (changes : List Change) (group key : Text) : Prop :=
  ∃ change ∈ changes, change.group = group ∧ Text.of change.option.key = key ∧ change.value.IsVoid

/-- What changes leave of a key file, whatever the values are. -/
structure Keeps (changes : List Change) (before after : KeyFile) : Prop where
  groups : after.groupNames = before.groupNames
  others : ∀ group key, RepoOption.ofKey? key = none →
    after.value? group key = before.value? group key
  headers : ∀ group ∈ before.groupNames,
    after.commentsAt { group := group } = before.commentsAt { group := group }
  keys : ∀ group ∈ before.groupNames, ∀ key ∈ before.keysOf group, ¬Removes changes group key →
    key ∈ after.keysOf group ∧ after.commentsAt { group := group, key := some key } =
      before.commentsAt { group := group, key := some key }

theorem Keeps.trans {first second : List Change} {before between after : KeyFile}
    (left : Keeps first before between) (right : Keeps second between after) :
    Keeps (first ++ second) before after where
  groups := right.groups.trans left.groups
  others group key unregistered :=
    (right.others group key unregistered).trans (left.others group key unregistered)
  headers group declared :=
    (right.headers group (left.groups ▸ declared)).trans (left.headers group declared)
  keys group declared key member kept := by
    have kept_first : ¬Removes first group key := by
      rintro ⟨change, listed, removal⟩
      exact kept ⟨change, List.mem_append_left _ listed, removal⟩
    have kept_second : ¬Removes second group key := by
      rintro ⟨change, listed, removal⟩
      exact kept ⟨change, List.mem_append_right _ listed, removal⟩
    obtain ⟨stays, comments⟩ := left.keys group declared key member kept_first
    rw [← left.groups] at declared
    obtain ⟨still_stays, still_comments⟩ := right.keys group declared key stays kept_second
    exact ⟨still_stays, still_comments.trans comments⟩

theorem keeps_assign {keyFile : KeyFile} {group : Text} {option : RepoOption} {value : Value}
    {change : Option Text} (changed : option.spec.change value = .ok change)
    (plain : keyFile.Plain) (declared : group ∈ keyFile.groupNames) :
    Keeps [⟨group, option, value⟩] keyFile
      (keyFile.assign group (Text.of option.key) change) := by
  have stands := KeyFile.hasGroup_iff.mpr declared
  have values := KeyFile.value?_assign stands (plain.named group declared) plain.unshared
    (Text.of option.key) change
  have comments := KeyFile.commentsAt_assign stands (Text.of option.key) change
  refine
    { groups := KeyFile.groupNames_assign stands (Text.of option.key) change
      others := ?_
      headers := ?_
      keys := ?_ }
  · intro other key unregistered
    rw [values, if_neg]
    rintro ⟨-, rfl⟩
    simp [RepoOption.ofKey?_key] at unregistered
  · intro other _
    rw [comments, if_neg]
    rintro ⟨-, same⟩
    cases same
  · intro other _ key member kept
    by_cases same : other = group ∧ key = Text.of option.key
    · obtain ⟨rfl, rfl⟩ := same
      have full : ¬value.IsVoid := by
        intro void
        exact kept ⟨_, List.mem_singleton_self _, rfl, rfl, void⟩
      obtain ⟨-, rfl⟩ := OptionSpec.change_of_not_isVoid full changed
      constructor
      · rw [KeyFile.mem_keysOf_iff, values, if_pos ⟨rfl, rfl⟩]
        exact ⟨_, rfl⟩
      · rw [comments, if_neg]
        rintro ⟨⟨⟩, -⟩
    · constructor
      · rw [KeyFile.mem_keysOf_iff, values, if_neg same]
        exact KeyFile.mem_keysOf_iff.mp member
      · rw [comments, if_neg]
        rintro ⟨-, anchored⟩
        cases anchored
        exact same ⟨rfl, rfl⟩

/-- A set that succeeds assigns to the section of the entry, and the entries stay. -/
theorem exists_assign_of_set {workspace next : Workspace} {file : Nat} {loaded : LoadedFile}
    {id : Text} {option : RepoOption} {value : Value}
    (found : workspace.fileAt? file = some loaded) (plain : loaded.keyFile.Plain)
    (declared : id ∈ loaded.keyFile.groupNames)
    (done : workspace.set { id := id, file := some file } (.registered option) value =
      (.ok (), next)) :
    ∃ change, option.spec.change value = .ok change ∧
      next.fileAt? file = some
        { loaded with keyFile := loaded.keyFile.assign id (Text.of option.key) change } ∧
      ∀ handle, next.entryAt? handle = workspace.entryAt? handle := by
  have attached : ({ id := id, file := some file } : Entry).file = some file := rfl
  have succeeded := set_fst attached found plain declared option value
  rw [done] at succeeded
  cases changed : option.spec.change value with
  | error failure =>
    rw [changed] at succeeded
    cases succeeded
  | ok change =>
    have shown := fileAt?_set attached found plain declared changed file
    have same := (sameStores_set attached found plain declared changed).entryAt?
    rw [done] at shown same
    rw [if_pos rfl] at shown
    exact ⟨change, rfl, shown, same⟩

/-- What one set of an entry makes of its file. -/
theorem Holds.set {workspace next : Workspace} {handles : List Nat} {file : Nat}
    {loaded : LoadedFile} (holds : workspace.Holds handles file loaded)
    (plain : loaded.keyFile.Plain) {handle : Nat} {entry : Entry} {option : RepoOption}
    {value : Value} (listed : handle ∈ handles) (stands : workspace.entryAt? handle = some entry)
    (done : workspace.set entry (.registered option) value = (.ok (), next)) :
    entry.id ∈ loaded.keyFile.groupNames ∧ ∃ change, option.spec.change value = .ok change ∧
      next.Holds handles file
        { loaded with
          keyFile := loaded.keyFile.assign entry.id (Text.of option.key) change } := by
  obtain ⟨id, declared, stands_again⟩ := holds.entry listed
  rw [stands, Option.some.injEq] at stands_again
  subst stands_again
  obtain ⟨change, changed, shown, same⟩ := exists_assign_of_set holds.found plain declared done
  refine ⟨declared, change, changed, shown, ?_⟩
  have groups : (loaded.keyFile.assign id (Text.of option.key) change).groupNames =
      loaded.keyFile.groupNames :=
    KeyFile.groupNames_assign (KeyFile.hasGroup_iff.mpr declared) _ change
  rw [groups, ← holds.entries]
  exact List.map_congr_left fun other _ => same other

/-- Whatever is set, the file can be loaded again, and what was not set stays. -/
theorem Sets.holds {handles : List Nat} {workspace final : Workspace} {changes : List Change}
    (sets : Sets handles workspace changes final) {file : Nat} {loaded : LoadedFile}
    (holds : workspace.Holds handles file loaded) (sound : loaded.keyFile.Sound)
    (single : loaded.keyFile.SingleLined) :
    ∃ keyFile, final.Holds handles file { loaded with keyFile := keyFile } ∧ keyFile.Sound ∧
      keyFile.SingleLined ∧ Keeps changes loaded.keyFile keyFile := by
  induction sets generalizing loaded with
  | refl workspace =>
    exact ⟨loaded.keyFile, holds, sound, single, rfl, fun _ _ _ => rfl, fun _ _ => rfl,
      fun _ _ _ member _ => ⟨member, rfl⟩⟩
  | @step _ _ _ _ entry option _ _ listed stands done rest ih =>
    obtain ⟨declared, change, changed, next_holds⟩ := holds.set sound.plain listed stands done
    have storable : ∀ text, change = some text →
        KeyFile.Storable (Text.of option.key) text := by
      rintro text rfl
      exact RepoOption.storable_of_change changed
    obtain ⟨keyFile, final_holds, final_sound, final_single, keeps⟩ :=
      ih next_holds (sound.assign declared storable) (single.assign sound.plain declared storable)
    exact ⟨keyFile, final_holds, final_sound, final_single,
      (keeps_assign changed sound.plain declared).trans keeps⟩

/-! ## Saving and loading -/

theorem keeps_of_reprints {keyFile again : KeyFile}
    (reprints : keyFile.Reprints again) : Keeps [] keyFile again where
  groups := reprints.groupNames
  others group key _ := reprints.value? group key
  headers group declared :=
    reprints.comments _ (List.mem_flatMap.mpr ⟨group, declared, List.mem_cons_self⟩)
  keys group declared key member _ := by
    have anchored : { group := group, key := some key } ∈ keyFile.anchors :=
      List.mem_flatMap.mpr
        ⟨group, declared, List.mem_cons_of_mem _ (List.mem_map.mpr ⟨key, member, rfl⟩)⟩
    exact ⟨by rwa [reprints.keysOf], reprints.comments _ anchored⟩

/-- What is loaded again of an edited file: its sections in order, what their options read as, and
what the changes left of the file as it was. -/
structure Recovered (changes : List Change) (before : LoadedFile) (edited : Workspace)
    (handles : List Nat) (path : Files.Path) (reopened : Workspace) (found : List Nat)
    (again : LoadedFile) : Prop where
  stands : again.path = path
  ids : found.map reopened.idAt? = handles.map edited.idAt?
  read : ∀ option, found.map (reopened.read? option) =
    handles.map fun handle => (edited.read? option handle).map (relocated path)
  read_in_place : path = before.path →
    ∀ option, found.map (reopened.read? option) = handles.map (edited.read? option)
  keeps : Keeps changes before.keyFile again.keyFile

/-- Whatever was set in a file whose lines continue no value, all of it is loaded again from where
the file was saved. -/
theorem recovered_of_sets {workspace opened edited saved reader : Workspace} {number : Nat}
    {name text : Text} {handles : List Nat} {changes : List Change} {before after : LoadedFile}
    {target : Option Text} {path : Files.Path} {again_name : Text}
    (loaded : workspace.parse number name = (.ok handles, opened))
    (content : workspace.tree.readText (Files.Path.ofText name).toText = .ok text)
    (single : KeyFile.hasContinuation (Folding.fold text) = false)
    (opened_file : opened.fileAt? workspace.files.length = some before)
    (sets : Sets handles opened changes edited)
    (edited_file : edited.fileAt? workspace.files.length = some after)
    (save : edited.saveFile after target = (.ok path, saved))
    (tree : reader.tree = saved.tree) (named : Files.Path.ofText again_name = path)
    (other : Nat) :
    ∃ found reopened again, reader.parse other again_name = (.ok found, reopened) ∧
      reopened.fileAt? reader.files.length = some again ∧
      Recovered changes before edited handles path reopened found again := by
  obtain ⟨keyFile, key_file_loaded, registered⟩ := registered_of_parse loaded
  rw [registered.fileAt?] at opened_file
  obtain rfl := Option.some.inj opened_file
  have sound := KeyFile.sound_of_loadFile key_file_loaded
  obtain ⟨read_text, read, parsed⟩ := KeyFile.loadFile_eq_ok.mp key_file_loaded
  obtain rfl : read_text = text := Except.ok.inj (read.symm.trans content)
  have single_lined := KeyFile.singleLined_of_hasContinuation parsed single
  obtain ⟨final, final_holds, final_sound, final_single, keeps⟩ :=
    sets.holds registered.holds sound single_lined
  rw [final_holds.found] at edited_file
  obtain rfl := Option.some.inj edited_file
  have stored := (stored_of_saveFile save).1
  rw [← tree] at stored
  obtain ⟨again, again_parsed, reprints⟩ :=
    KeyFile.parse_print final_sound.toProper final_single
  have again_loaded := (final_sound.loadFile_eq_ok stored).mpr again_parsed
  rw [← named] at again_loaded
  obtain ⟨found, reopened, parse_eq, again_registered⟩ := parse_of_loadFile again_loaded other
  rw [named] at again_registered
  have outcomes : ∀ option, found.map (reopened.read? option) =
      handles.map fun handle => (edited.read? option handle).map (relocated path) := by
    intro option
    rw [final_holds.read_relocated, again_registered.holds.read, reprints.groupNames]
    exact List.map_congr_left fun id _ => by rw [reprints.value?]
  refine ⟨found, reopened, _, parse_eq, again_registered.fileAt?, ?_⟩
  refine
    { stands := rfl
      ids := ?_
      read := outcomes
      read_in_place := ?_
      keeps := ?_ }
  · rw [again_registered.holds.ids, final_holds.ids, reprints.groupNames]
  · rintro rfl option
    rw [outcomes, final_holds.read_relocated, final_holds.read]
  · have all_kept := keeps.trans (keeps_of_reprints reprints)
    rwa [List.append_nil] at all_kept

/-- The one section of a tree is given a name, which is there when the file is loaded again. -/
theorem plain_text_recovered : ∃ handles opened edited before path found reopened again,
    ∃ saved : Workspace,
      (withFile sampleName plainText).parse 0 sampleName = (.ok handles, opened) ∧
      Sets handles opened [⟨Text.of "r", .name, .text (Text.of "x")⟩] edited ∧
      saved.parse 1 sampleName = (.ok found, reopened) ∧
      Recovered [⟨Text.of "r", .name, .text (Text.of "x")⟩] before edited handles path reopened
        found again := by
  obtain ⟨keyFile, parsed, groups⟩ : ∃ keyFile,
      KeyFile.parse (Folding.fold plainText) = .ok keyFile ∧
        keyFile.groupNames = [Text.of "r"] :=
    ⟨_, rfl, rfl⟩
  obtain ⟨handles, opened, loaded, registered⟩ := parse_withFile (by decide) parsed
  have opened_file := registered.fileAt?
  obtain ⟨sound, -, text, exact_text⟩ := sound_of_parse loaded opened_file
  have plain := sound.plain
  have handles_eq : handles = [0] := by
    rw [registered.numbered, groups]
    rfl
  have entries := registered.added
  rw [handles_eq, groups] at entries
  have stands : opened.entryAt? 0 = some { id := Text.of "r", file := some 0 } :=
    (List.cons.inj entries).1
  have declared : Text.of "r" ∈ keyFile.groupNames := by simp [groups]
  have changed : RepoOption.name.spec.change (.text (Text.of "x")) = .ok (some (Text.of "x")) :=
    rfl
  have attached : ({ id := Text.of "r", file := some 0 } : Entry).file = some 0 := rfl
  have succeeded := set_fst attached opened_file plain declared .name (.text (Text.of "x"))
  rw [changed] at succeeded
  obtain ⟨edited, done⟩ : ∃ edited, opened.set { id := Text.of "r", file := some 0 }
      (.registered .name) (.text (Text.of "x")) = (.ok (), edited) :=
    ⟨_, Prod.ext succeeded rfl⟩
  have tree := (set_of_attached attached opened_file .name (.text (Text.of "x"))).2.2
  have edited_file := fileAt?_set attached opened_file plain declared changed 0
  rw [done] at tree edited_file
  have sets : Sets handles opened [⟨Text.of "r", .name, .text (Text.of "x")⟩] edited :=
    .step (by simp [handles_eq]) stands done (.refl edited)
  have writable := canWriteBeside_withFile plainText
  rw [← registered.tree, ← tree] at writable
  rw [← tree] at exact_text
  obtain ⟨saved, save⟩ := (exists_saveFile_iff
    { path := Files.Path.ofText sampleName, keyFile := keyFile.assign (Text.of "r") _ _ }
    exact_text).mpr writable
  obtain ⟨found, reopened, loaded_again, parse_eq, -, recovered⟩ := recovered_of_sets loaded
    (readText_withFile (by decide)) (by decide) opened_file sets edited_file save rfl rfl 1
  exact ⟨handles, opened, edited, _, _, found, reopened, _, saved, loaded, sets, parse_eq,
    recovered⟩

end Workspace
end PackageRepos
