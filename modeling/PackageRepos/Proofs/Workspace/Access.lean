import Mathlib.Data.List.Nodup
import PackageRepos.Proofs.Workspace.Runs
import PackageRepos.Proofs.Workspace.Saving

/-!
# Options of entries as a map

Reading an option is a matter of the text that is stored for it, and setting one replaces the text
stored for this entry and this option. From there on entries and options are the keys of a map.
-/

namespace PackageRepos
namespace RepoOption

/-- Options with one key are the same. -/
theorem eq_of_key_eq {first second : RepoOption}
    (same : Text.of first.key = Text.of second.key) : first = second := by
  have found := ofKey?_key first
  rw [same, ofKey?_key second, Option.some.injEq] at found
  exact found.symm

end RepoOption

namespace Workspace

/-! ## Reading -/

/-- The path of the file of an entry. -/
def pathOf? (workspace : Workspace) (entry : Entry) : Option Files.Path :=
  (workspace.fileOf? entry).map fun loaded => loaded.path

/-- The text that is stored for an option of an entry. -/
def storedAt (workspace : Workspace) (entry : Entry) (option : RepoOption) : Option Text :=
  (workspace.fileOf? entry).bind fun loaded =>
    loaded.keyFile.value? entry.id (Text.of option.key)

/-- What reading an option of a section comes to, given the file's path and the stored text. -/
def outcomeOf (path : Option Files.Path) (id : Text) (option : RepoOption)
    (stored : Option Text) : Except Failure Value :=
  match path with
  | none => .error (.error (.detached id))
  | some path =>
    if option.kind = .id then .ok (.text id)
    else
      match stored with
      | none => explain option.spec path.toText (.lookup (.noKey option.spec.key (.text id)))
      | some raw =>
        match option.spec.decode raw with
        | .ok value => .ok value
        | .error failure => explain option.spec path.toText failure

theorem valueIn_eq {loaded : LoadedFile} {id : Text} (declared : loaded.keyFile.hasGroup id = true)
    (option : RepoOption) :
    valueIn loaded id option =
      outcomeOf (some loaded.path) id option (loaded.keyFile.value? id (Text.of option.key)) := by
  simp only [valueIn, OptionSpec.read, outcomeOf, RepoOption.spec_kind]
  by_cases fixed : option.kind = .id
  · simp [fixed]
  · simp only [fixed, if_false, KeyFile.askValue, KeyFile.lookup, declared, Bool.true_or, if_true,
      Value.plain, RepoOption.spec_key]
    cases loaded.keyFile.value? id (Text.of option.key) <;> rfl

theorem get_of_fileOf? {workspace : Workspace} {entry : Entry} {loaded : LoadedFile}
    (owned : workspace.fileOf? entry = some loaded)
    (declared : entry.id ∈ loaded.keyFile.groupNames) (option : RepoOption) :
    workspace.get entry (.registered option) =
      outcomeOf (some loaded.path) entry.id option
        (loaded.keyFile.value? entry.id (Text.of option.key)) := by
  obtain ⟨file, attached, found⟩ := Option.bind_eq_some_iff.mp owned
  rw [← valueIn_eq (KeyFile.hasGroup_iff.mpr declared)]
  simp [get, registered, attachedFile, attached, found]

theorem get_eq {workspace : Workspace} (coherent : workspace.Coherent) {handle : Nat}
    {entry : Entry} (stands : workspace.entryAt? handle = some entry) (option : RepoOption) :
    workspace.get entry (.registered option) =
      outcomeOf (workspace.pathOf? entry) entry.id option (workspace.storedAt entry option) := by
  unfold pathOf? storedAt
  cases owned : workspace.fileOf? entry with
  | some loaded =>
    obtain ⟨file, attached, found⟩ := Option.bind_eq_some_iff.mp owned
    exact get_of_fileOf? owned (coherent.declared stands attached found) option
  | none =>
    unfold get attachedFile
    cases attached : entry.file with
    | none => rfl
    | some file =>
      have missing : workspace.fileAt? file = none := by simpa [fileOf?, attached] using owned
      simp [registered, missing, outcomeOf]

/-! ## Setting -/

/-- The text stored for one option of one entry was replaced, and nothing else was. -/
structure Assigned (workspace : Workspace) (handle : Nat) (option : RepoOption)
    (change : Option Text) (after : Workspace) : Prop where
  coherent : after.Coherent
  entries : ∀ other, after.entryAt? other = workspace.entryAt? other
  paths : ∀ entry, after.pathOf? entry = workspace.pathOf? entry
  stored : ∀ other entry, workspace.entryAt? other = some entry → ∀ asked,
    after.storedAt entry asked =
      if other = handle ∧ asked = option then change else workspace.storedAt entry asked

/-- Two entries of one file with the same name are the same. -/
theorem Coherent.handle_eq {workspace : Workspace} (coherent : workspace.Coherent)
    {first second file : Nat} {left right : Entry}
    (left_stands : workspace.entryAt? first = some left)
    (right_stands : workspace.entryAt? second = some right) (left_attached : left.file = some file)
    (right_attached : right.file = some file) (same : left.id = right.id) : first = second := by
  obtain ⟨number, listed⟩ := coherent.attached first left file left_stands left_attached
  apply List.inj_on_of_nodup_map (coherent.nodup_ids listed)
  · exact mem_declaredBy.mpr ⟨left, left_stands, left_attached⟩
  · exact mem_declaredBy.mpr ⟨right, right_stands, right_attached⟩
  · rw [idAt?, idAt?, left_stands, right_stands, Option.map_some, Option.map_some, same]

section Set

variable {workspace : Workspace} {file : Nat} {entry : Entry} {loaded : LoadedFile}
  (attached : entry.file = some file) (found : workspace.fileAt? file = some loaded)

section Plain

variable (plain : loaded.keyFile.Plain) (declared : entry.id ∈ loaded.keyFile.groupNames)

include attached found plain declared

theorem set_fst (option : RepoOption) (value : Value) :
    (workspace.set entry (.registered option) value).1 =
      (option.spec.change value).map fun _ => () := by
  rw [(set_of_attached attached found option value).1,
    OptionSpec.write_eq value (KeyFile.hasGroup_iff.mpr declared) (plain.named entry.id declared)]
  cases option.spec.change value <;> rfl

/-- A set that succeeds assigns to the section of the entry. -/
theorem sameStores_set {option : RepoOption} {value : Value} {change : Option Text}
    (changed : option.spec.change value = .ok change) :
    SameStores (workspace.setKeyFile file
        (loaded.keyFile.assign entry.id (Text.of option.key) change))
      (workspace.set entry (.registered option) value).2 := by
  have written : option.spec.write loaded.keyFile (.text entry.id) value = _ :=
    OptionSpec.write_eq value (KeyFile.hasGroup_iff.mpr declared) (plain.named entry.id declared)
  rw [changed] at written
  have done := (set_of_attached attached found option value).2.1
  rw [written] at done
  exact done

theorem fileAt?_set {option : RepoOption} {value : Value} {change : Option Text}
    (changed : option.spec.change value = .ok change) (other : Nat) :
    (workspace.set entry (.registered option) value).2.fileAt? other =
      if file = other then
        some { loaded with
          keyFile := loaded.keyFile.assign entry.id (Text.of option.key) change }
      else workspace.fileAt? other := by
  rw [(sameStores_set attached found plain declared changed).fileAt?, fileAt?_setKeyFile]
  split
  · rename_i same
    rw [← same, found, Option.map_some]
  · rfl

theorem pathOf?_set {option : RepoOption} {value : Value} {change : Option Text}
    (changed : option.spec.change value = .ok change) (asker : Entry) :
    (workspace.set entry (.registered option) value).2.pathOf? asker =
      workspace.pathOf? asker := by
  unfold pathOf? fileOf?
  cases asker.file with
  | none => rfl
  | some owner =>
    rw [Option.bind_some, Option.bind_some, fileAt?_set attached found plain declared changed]
    split
    · rename_i same
      rw [← same, found]
      rfl
    · rfl

end Plain

variable {handle : Nat} (coherent : workspace.Coherent)
  (stands : workspace.entryAt? handle = some entry)

include attached found coherent stands

/-- A set reaches one option of one entry only: no other entry has both the file and the name. -/
theorem Coherent.storedAt_set {option : RepoOption} {value : Value} {change : Option Text}
    (changed : option.spec.change value = .ok change) {other : Nat} {asker : Entry}
    (asker_stands : workspace.entryAt? other = some asker) (asked : RepoOption) :
    (workspace.set entry (.registered option) value).2.storedAt asker asked =
      if other = handle ∧ asked = option then change else workspace.storedAt asker asked := by
  have declared := coherent.declared stands attached found
  have plain := coherent.plain file loaded found
  have shown := fileAt?_set attached found plain declared changed
  have owner_eq : other = handle → asker.file = some file := by
    rintro rfl
    rw [stands, Option.some.injEq] at asker_stands
    rw [← asker_stands, attached]
  unfold storedAt fileOf?
  cases owned : asker.file with
  | none =>
    rw [if_neg]
    · rfl
    · rintro ⟨same, -⟩
      rw [owner_eq same] at owned
      cases owned
  | some owner =>
    rw [Option.bind_some, Option.bind_some, shown]
    by_cases same : file = owner
    · subst same
      have keys : asker.id = entry.id ∧ Text.of asked.key = Text.of option.key ↔
          other = handle ∧ asked = option := by
        constructor
        · rintro ⟨ids, options⟩
          exact ⟨coherent.handle_eq asker_stands stands owned attached ids,
            RepoOption.eq_of_key_eq options⟩
        · rintro ⟨rfl, rfl⟩
          rw [stands, Option.some.injEq] at asker_stands
          exact ⟨congrArg Entry.id asker_stands.symm, rfl⟩
      rw [if_pos rfl, found, Option.bind_some, Option.bind_some,
        KeyFile.value?_assign (KeyFile.hasGroup_iff.mpr declared) (plain.named entry.id declared)
          plain.unshared]
      exact if_congr keys rfl rfl
    · rw [if_neg same, if_neg]
      rintro ⟨same_handle, -⟩
      rw [owner_eq same_handle, Option.some.injEq] at owned
      exact same owned

theorem Coherent.assigned {option : RepoOption} {value : Value} {change : Option Text}
    (changed : option.spec.change value = .ok change) :
    workspace.Assigned handle option change
      (workspace.set entry (.registered option) value).2 := by
  have declared := coherent.declared stands attached found
  have plain := coherent.plain file loaded found
  have step : Step workspace (workspace.set entry (.registered option) value).2 :=
    .written stands attached found (set_of_attached attached found option value).2.1
  refine
    { coherent := (coherent.of_step step).1
      entries := (sameStores_set attached found plain declared changed).entryAt?
      paths := pathOf?_set attached found plain declared changed
      stored := ?_ }
  intro other asker asker_stands asked
  exact coherent.storedAt_set attached found stands changed asker_stands asked

end Set

theorem attached_of_pathOf? {workspace : Workspace} {entry : Entry} {path : Files.Path}
    (reached : workspace.pathOf? entry = some path) :
    ∃ file loaded, entry.file = some file ∧ workspace.fileAt? file = some loaded := by
  obtain ⟨loaded, owned, -⟩ := Option.map_eq_some_iff.mp reached
  obtain ⟨file, attached, found⟩ := Option.bind_eq_some_iff.mp owned
  exact ⟨file, loaded, attached, found⟩

/-- Whether a set succeeds is a matter of the value, as long as the entry is attached. -/
theorem Coherent.set_outcome {workspace : Workspace} (coherent : workspace.Coherent) {handle : Nat}
    {entry : Entry} (stands : workspace.entryAt? handle = some entry) (option : RepoOption)
    (value : Value) :
    (workspace.set entry (.registered option) value).1 =
      match workspace.pathOf? entry with
      | none => .error (.error (.detached entry.id))
      | some _ => (option.spec.change value).map fun _ => () := by
  cases reached : workspace.pathOf? entry with
  | none =>
    unfold set attachedFile
    cases attached : entry.file with
    | none => rfl
    | some file =>
      have missing : workspace.fileAt? file = none := by
        simpa [pathOf?, fileOf?, attached] using reached
      simp [registered, missing]
  | some path =>
    obtain ⟨file, loaded, attached, found⟩ := attached_of_pathOf? reached
    exact set_fst attached found (coherent.plain file loaded found)
      (coherent.declared stands attached found) option value

/-- A value that makes a change can be set, and then the change is made. -/
theorem Coherent.set_of_change {workspace : Workspace} (coherent : workspace.Coherent)
    {handle : Nat} {entry : Entry} (stands : workspace.entryAt? handle = some entry)
    {path : Files.Path} (reached : workspace.pathOf? entry = some path) {option : RepoOption}
    {value : Value} {change : Option Text} (changed : option.spec.change value = .ok change) :
    ∃ after, workspace.set entry (.registered option) value = (.ok (), after) ∧
      workspace.Assigned handle option change after := by
  obtain ⟨file, loaded, attached, found⟩ := attached_of_pathOf? reached
  have succeeded := set_fst attached found (coherent.plain file loaded found)
    (coherent.declared stands attached found) option value
  rw [changed] at succeeded
  exact ⟨_, Prod.ext succeeded rfl, coherent.assigned attached found stands changed⟩

/-- Every set that succeeds makes the change that its value asks for. -/
theorem Coherent.assigned_of_set {workspace after : Workspace} (coherent : workspace.Coherent)
    {handle : Nat} {entry : Entry} (stands : workspace.entryAt? handle = some entry)
    {option : RepoOption} {value : Value}
    (done : workspace.set entry (.registered option) value = (.ok (), after)) :
    ∃ path change, workspace.pathOf? entry = some path ∧
      option.spec.change value = .ok change ∧ workspace.Assigned handle option change after := by
  have succeeded := coherent.set_outcome stands option value
  rw [done] at succeeded
  cases reached : workspace.pathOf? entry with
  | none =>
    rw [reached] at succeeded
    cases succeeded
  | some path =>
    cases changed : option.spec.change value with
    | error failure =>
      rw [reached, changed] at succeeded
      cases succeeded
    | ok change =>
      obtain ⟨again, again_done, assigned⟩ := coherent.set_of_change stands reached changed
      rw [done] at again_done
      obtain rfl : after = again := (Prod.mk.inj again_done).2
      exact ⟨path, change, rfl, rfl, assigned⟩

/-- What is read after a change. -/
theorem Assigned.get {workspace after : Workspace} {handle : Nat} {option : RepoOption}
    {change : Option Text} (assigned : workspace.Assigned handle option change after)
    {other : Nat} {asker : Entry} (stands : workspace.entryAt? other = some asker)
    (asked : RepoOption) :
    after.get asker (.registered asked) =
      outcomeOf (workspace.pathOf? asker) asker.id asked
        (if other = handle ∧ asked = option then change else workspace.storedAt asker asked) := by
  rw [← assigned.entries] at stands
  rw [get_eq assigned.coherent stands, assigned.paths]
  rw [assigned.entries] at stands
  rw [assigned.stored other asker stands]

/-! ## The laws of a map -/

/-- What was stored for an accepted value is read as the value. -/
theorem outcomeOf_encoded {option : RepoOption} {value kept : Value}
    (accepted : OptionKind.Accepts option.kind value kept) (writable : option.kind ≠ .id)
    (path : Files.Path) (id : Text) :
    outcomeOf (some path) id option (some (option.kind.encoded kept)) = .ok kept := by
  have decoded : option.spec.decode (option.kind.encoded kept) = .ok kept :=
    accepted.decode_encoded (Text.of option.key)
  simp [outcomeOf, writable, decoded]

/-- An option for which nothing is stored has its default or is not set. -/
theorem outcomeOf_none {option : RepoOption} (writable : option.kind ≠ .id) (path : Files.Path)
    (id : Text) :
    option.spec.hasDefault = true ∧
        outcomeOf (some path) id option none = .ok option.spec.default ∨
      option.spec.hasDefault = false ∧ ∃ error : RepoError, error.category = .notSet ∧
        outcomeOf (some path) id option none = .error (.error error) := by
  cases default : option.spec.hasDefault with
  | true =>
    refine .inl ⟨rfl, ?_⟩
    simp only [outcomeOf, writable, if_false, explain, default, if_true]
  | false =>
    refine .inr ⟨rfl, ?_⟩
    simp only [outcomeOf, writable, if_false, explain, default, Bool.false_eq_true]
    exact ⟨_, rfl, rfl⟩

/-- Two workspaces with the same entries, each of which reads the same in both. -/
structure ReadsAs (left right : Workspace) : Prop where
  entries : ∀ handle, left.entryAt? handle = right.entryAt? handle
  get : ∀ handle entry, right.entryAt? handle = some entry → ∀ option,
    left.get entry (.registered option) = right.get entry (.registered option)

/-- Changes of the same keys to the same texts cannot be told apart. -/
theorem readsAs_of_stored {workspace left right : Workspace} (left_coherent : left.Coherent)
    (right_coherent : right.Coherent)
    (left_entries : ∀ handle, left.entryAt? handle = workspace.entryAt? handle)
    (right_entries : ∀ handle, right.entryAt? handle = workspace.entryAt? handle)
    (paths : ∀ entry, left.pathOf? entry = right.pathOf? entry)
    (stored : ∀ handle entry, workspace.entryAt? handle = some entry → ∀ option,
      left.storedAt entry option = right.storedAt entry option) : left.ReadsAs right := by
  constructor
  · intro handle
    rw [left_entries, right_entries]
  · intro handle entry right_stands option
    have stands : workspace.entryAt? handle = some entry := by rw [← right_entries, right_stands]
    have left_stands : left.entryAt? handle = some entry := by rw [left_entries, stands]
    rw [get_eq left_coherent left_stands, get_eq right_coherent right_stands, paths,
      stored handle entry stands]

/-- The second of two changes of one key wins. -/
theorem Assigned.again {workspace after final direct : Workspace} {handle : Nat}
    {option : RepoOption} {first second : Option Text}
    (assigned : workspace.Assigned handle option first after)
    (final_assigned : after.Assigned handle option second final)
    (direct_assigned : workspace.Assigned handle option second direct) : final.ReadsAs direct := by
  have entries : ∀ asked, final.entryAt? asked = workspace.entryAt? asked := by
    intro asked
    rw [final_assigned.entries, assigned.entries]
  refine readsAs_of_stored final_assigned.coherent direct_assigned.coherent entries
    direct_assigned.entries ?_ ?_
  · intro entry
    rw [final_assigned.paths, assigned.paths, direct_assigned.paths]
  · intro other entry stands asked
    have after_stands : after.entryAt? other = some entry := by rw [assigned.entries, stands]
    rw [final_assigned.stored other entry after_stands, assigned.stored other entry stands,
      direct_assigned.stored other entry stands]
    split <;> rfl

/-- Changes of different keys may be made in either order. -/
theorem Assigned.swap {workspace left right final swapped : Workspace} {handle other : Nat}
    {option asked : RepoOption} {first second : Option Text}
    (different : ¬(other = handle ∧ asked = option))
    (left_assigned : workspace.Assigned handle option first left)
    (final_assigned : left.Assigned other asked second final)
    (right_assigned : workspace.Assigned other asked second right)
    (swapped_assigned : right.Assigned handle option first swapped) : final.ReadsAs swapped := by
  have left_entries : ∀ index, final.entryAt? index = workspace.entryAt? index := by
    intro index
    rw [final_assigned.entries, left_assigned.entries]
  have right_entries : ∀ index, swapped.entryAt? index = workspace.entryAt? index := by
    intro index
    rw [swapped_assigned.entries, right_assigned.entries]
  refine readsAs_of_stored final_assigned.coherent swapped_assigned.coherent left_entries
    right_entries ?_ ?_
  · intro entry
    rw [final_assigned.paths, left_assigned.paths, swapped_assigned.paths, right_assigned.paths]
  · intro index entry stands read
    have left_stands : left.entryAt? index = some entry := by rw [left_assigned.entries, stands]
    have right_stands : right.entryAt? index = some entry := by rw [right_assigned.entries, stands]
    rw [final_assigned.stored index entry left_stands, left_assigned.stored index entry stands,
      swapped_assigned.stored index entry right_stands, right_assigned.stored index entry stands]
    by_cases second_key : index = other ∧ read = asked
    · have not_first : ¬(index = handle ∧ read = option) := by
        rintro ⟨same_handle, same_option⟩
        exact different ⟨second_key.1.symm.trans same_handle, second_key.2.symm.trans same_option⟩
      rw [if_pos second_key, if_neg not_first, if_pos second_key]
    · rw [if_neg second_key, if_neg second_key]

section Laws

variable {workspace after : Workspace} (coherent : workspace.Coherent) {handle : Nat}
  {entry : Entry} (stands : workspace.entryAt? handle = some entry) {option : RepoOption}
  {value : Value} (done : workspace.set entry (.registered option) value = (.ok (), after))

include coherent stands done

/-- What an option reads as after it was set. -/
theorem Coherent.get_set_self :
    (¬value.IsVoid → after.get entry (.registered option) = .ok (OptionKind.keptValue value)) ∧
      (value.IsVoid →
        option.spec.hasDefault = true ∧
            after.get entry (.registered option) = .ok option.spec.default ∨
          option.spec.hasDefault = false ∧ ∃ error : RepoError, error.category = .notSet ∧
            after.get entry (.registered option) = .error (.error error)) := by
  obtain ⟨path, change, reached, changed, assigned⟩ := coherent.assigned_of_set stands done
  have writable : option.kind ≠ .id := OptionSpec.kind_ne_id_of_change changed
  have own := assigned.get stands option
  rw [if_pos ⟨rfl, rfl⟩, reached] at own
  constructor
  · intro full
    obtain ⟨accepted, rfl⟩ := OptionSpec.change_of_not_isVoid full changed
    rw [own]
    exact outcomeOf_encoded accepted writable path entry.id
  · intro void
    obtain rfl := OptionSpec.change_of_isVoid void changed
    rw [own]
    exact outcomeOf_none writable path entry.id

theorem Coherent.get_set_other {other : Nat} {asker : Entry} {asked : RepoOption}
    (asker_stands : workspace.entryAt? other = some asker)
    (different : ¬(other = handle ∧ asked = option)) :
    after.get asker (.registered asked) = workspace.get asker (.registered asked) := by
  obtain ⟨path, change, -, -, assigned⟩ := coherent.assigned_of_set stands done
  rw [assigned.get asker_stands, if_neg different, get_eq coherent asker_stands]

theorem Coherent.set_set {second : Value} {direct : Workspace}
    (direct_done : workspace.set entry (.registered option) second = (.ok (), direct)) :
    ∃ final, after.set entry (.registered option) second = (.ok (), final) ∧
      final.ReadsAs direct := by
  obtain ⟨path, change, reached, -, assigned⟩ := coherent.assigned_of_set stands done
  obtain ⟨_, second_change, -, second_changed, direct_assigned⟩ :=
    coherent.assigned_of_set stands direct_done
  have after_stands : after.entryAt? handle = some entry := by rw [assigned.entries, stands]
  have after_reached : after.pathOf? entry = some path := by rw [assigned.paths, reached]
  obtain ⟨final, final_done, final_assigned⟩ :=
    assigned.coherent.set_of_change after_stands after_reached second_changed
  exact ⟨final, final_done, assigned.again final_assigned direct_assigned⟩

theorem Coherent.set_comm {other : Nat} {asker : Entry} {asked : RepoOption} {second : Value}
    {direct : Workspace} (asker_stands : workspace.entryAt? other = some asker)
    (different : ¬(other = handle ∧ asked = option))
    (direct_done : workspace.set asker (.registered asked) second = (.ok (), direct)) :
    ∃ final swapped, after.set asker (.registered asked) second = (.ok (), final) ∧
      direct.set entry (.registered option) value = (.ok (), swapped) ∧
      final.ReadsAs swapped := by
  obtain ⟨path, change, reached, changed, assigned⟩ := coherent.assigned_of_set stands done
  obtain ⟨other_path, second_change, other_reached, second_changed, direct_assigned⟩ :=
    coherent.assigned_of_set asker_stands direct_done
  have after_stands : after.entryAt? other = some asker := by rw [assigned.entries, asker_stands]
  have after_reached : after.pathOf? asker = some other_path := by
    rw [assigned.paths, other_reached]
  obtain ⟨final, final_done, final_assigned⟩ :=
    assigned.coherent.set_of_change after_stands after_reached second_changed
  have direct_stands : direct.entryAt? handle = some entry := by
    rw [direct_assigned.entries, stands]
  have direct_reached : direct.pathOf? entry = some path := by
    rw [direct_assigned.paths, reached]
  obtain ⟨swapped, swapped_done, swapped_assigned⟩ :=
    direct_assigned.coherent.set_of_change direct_stands direct_reached changed
  exact ⟨final, swapped, final_done, swapped_done,
    assigned.swap different final_assigned direct_assigned swapped_assigned⟩

end Laws

/-- Wherever a run leads, entries and options are the keys of a map: a value that was set is read
back, nothing else changes, the second of two values for a key wins, and values for different keys
may be set in either order. -/
theorem access_of_run {blank after : Workspace} (fresh : blank.IsFresh)
    (operations : List Operation) {handle : Nat} {entry : Entry}
    (stands : (blank.run operations).entryAt? handle = some entry) {option : RepoOption}
    {value : Value}
    (done : (blank.run operations).set entry (.registered option) value = (.ok (), after)) :
    let workspace := blank.run operations
    (¬value.IsVoid → after.get entry (.registered option) = .ok (OptionKind.keptValue value)) ∧
      (value.IsVoid →
        option.spec.hasDefault = true ∧
            after.get entry (.registered option) = .ok option.spec.default ∨
          option.spec.hasDefault = false ∧ ∃ error : RepoError, error.category = .notSet ∧
            after.get entry (.registered option) = .error (.error error)) ∧
      (∀ second direct, workspace.set entry (.registered option) second = (.ok (), direct) →
        ∃ final, after.set entry (.registered option) second = (.ok (), final) ∧
          final.ReadsAs direct) ∧
      ∀ other asker asked, workspace.entryAt? other = some asker →
        ¬(other = handle ∧ asked = option) →
          after.get asker (.registered asked) = workspace.get asker (.registered asked) ∧
          ∀ second direct, workspace.set asker (.registered asked) second = (.ok (), direct) →
            ∃ final swapped, after.set asker (.registered asked) second = (.ok (), final) ∧
              direct.set entry (.registered option) value = (.ok (), swapped) ∧
              final.ReadsAs swapped := by
  intro workspace
  have coherent : workspace.Coherent := (fresh.coherent.of_run operations).1
  obtain ⟨read_back, cleared⟩ := coherent.get_set_self stands done
  refine ⟨read_back, cleared, ?_, ?_⟩
  · intro second direct direct_done
    exact coherent.set_set stands done direct_done
  · intro other asker asked asker_stands different
    constructor
    · exact coherent.get_set_other stands done asker_stands different
    · intro second direct direct_done
      exact coherent.set_comm stands done asker_stands different direct_done

/-- The name of the one entry of a tree is set and read back. -/
theorem plain_text_access : ∃ entry after,
    ((withFile sampleName plainText).run [.parse 0 sampleName]).entryAt? 0 = some entry ∧
      ((withFile sampleName plainText).run [.parse 0 sampleName]).set entry (.registered .name)
        (.text (Text.of "x")) = (.ok (), after) ∧
      after.get entry (.registered .name) = .ok (.text (Text.of "x")) := by
  have fresh : (withFile sampleName plainText).IsFresh := ⟨rfl, rfl, rfl⟩
  obtain ⟨keyFile, handles, -, registered⟩ := registered_plainText
  have coherent := (fresh.coherent.of_run [.parse 0 sampleName]).1
  have stands := entryAt?_plainText
  have reached : ((withFile sampleName plainText).run [.parse 0 sampleName]).pathOf?
      { id := Text.of "r", file := some 0 } = some (Files.Path.ofText sampleName) :=
    congrArg (Option.map LoadedFile.path) registered.fileAt?
  have changed : RepoOption.name.spec.change (.text (Text.of "x")) = .ok (some (Text.of "x")) :=
    rfl
  obtain ⟨after, done, -⟩ := coherent.set_of_change stands reached changed
  obtain ⟨read_back, -⟩ := access_of_run fresh [.parse 0 sampleName] stands done
  exact ⟨_, after, stands, done, read_back (by simp [Value.IsVoid])⟩

end Workspace
end PackageRepos
