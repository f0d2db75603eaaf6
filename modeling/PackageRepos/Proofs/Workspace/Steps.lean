import Mathlib.Logic.Relation
import PackageRepos.Proofs.KeyFile.Loading
import PackageRepos.Workspace.Operation

/-!
# The steps of a workspace

Every operation of a workspace is made of four steps: registering a key file, writing an option,
removing a file, and what touches neither files nor entries nor catalogs.
-/

namespace PackageRepos
namespace Workspace

/-! ## Registering -/

/-- A key file was registered with a catalog under a path, and its entries have these handles. -/
structure Registered (workspace : Workspace) (number : Nat) (path : Files.Path) (keyFile : KeyFile)
    (handles : List Nat) (after : Workspace) : Prop where
  tree : after.tree = workspace.tree
  files : after.files = workspace.files ++ [{ path := path, keyFile := keyFile }]
  entries : after.entries = workspace.entries ++
    keyFile.groupNames.map fun id => { id, file := some workspace.files.length }
  numbered : handles = List.range' workspace.entries.length keyFile.groupNames.length
  catalogs : after.catalogs = workspace.catalogs.insert number
    { files := (workspace.catalog number).files ++ [workspace.files.length]
      entries := (workspace.catalog number).entries ++ handles }

/-- A file is loaded exactly when its key file is, and then that is registered. -/
theorem parse_of_loadFile {workspace : Workspace} {name : Text} {keyFile : KeyFile}
    (loaded : (KeyFile.loadFile workspace.tree (Files.Path.ofText name)).1 = .ok keyFile)
    (number : Nat) :
    ∃ handles after, workspace.parse number name = (.ok handles, after) ∧
      Registered workspace number (Files.Path.ofText name) keyFile handles after := by
  simp only [parse]
  generalize KeyFile.loadFile workspace.tree (Files.Path.ofText name) = outcome at loaded ⊢
  obtain ⟨outcome, events⟩ := outcome
  obtain rfl : outcome = .ok keyFile := loaded
  refine ⟨_, _, rfl, ?_⟩
  constructor <;> simp [register, report, setCatalog, catalog]

theorem registered_of_parse {workspace after : Workspace} {number : Nat} {name : Text}
    {handles : List Nat} (parsed : workspace.parse number name = (.ok handles, after)) :
    ∃ keyFile, (KeyFile.loadFile workspace.tree (Files.Path.ofText name)).1 = .ok keyFile ∧
      Registered workspace number (Files.Path.ofText name) keyFile handles after := by
  cases loaded : (KeyFile.loadFile workspace.tree (Files.Path.ofText name)).1 with
  | ok keyFile =>
    obtain ⟨found, final, found_eq, registered⟩ := parse_of_loadFile loaded number
    obtain ⟨rfl, rfl⟩ : found = handles ∧ final = after := by simpa [parsed, eq_comm] using found_eq
    exact ⟨keyFile, rfl, registered⟩
  | error failure =>
    simp only [parse] at parsed
    generalize KeyFile.loadFile workspace.tree (Files.Path.ofText name) = outcome at loaded parsed
    obtain ⟨outcome, events⟩ := outcome
    obtain rfl : outcome = .error failure := loaded
    simp at parsed

theorem Registered.fileAt? {workspace after : Workspace} {number : Nat} {path : Files.Path}
    {keyFile : KeyFile} {handles : List Nat}
    (registered : Registered workspace number path keyFile handles after) :
    after.fileAt? workspace.files.length = some { path := path, keyFile := keyFile } := by
  simp [Workspace.fileAt?, registered.files]

/-! ## Removing -/

/-- The entry belongs to the file. -/
def declares (workspace : Workspace) (file handle : Nat) : Bool :=
  (workspace.entryAt? handle).any fun entry => entry.file == some file

/-- A file was removed from a catalog, and the entries it declared there were detached. -/
structure Removed (workspace : Workspace) (number file : Nat) (handles : List Nat)
    (after : Workspace) : Prop where
  tree : after.tree = workspace.tree
  files : after.files = workspace.files
  handles_eq : handles = (workspace.catalog number).entries.filter (workspace.declares file)
  entries : after.entries = workspace.entries.mapIdx fun handle entry =>
    if handles.contains handle then { entry with file := none } else entry
  catalogs : after.catalogs = workspace.catalogs.insert number
    { files := (workspace.catalog number).files.filter fun other => other != file
      entries := (workspace.catalog number).entries.filter fun handle =>
        !workspace.declares file handle }

theorem removeFile_of_listed {workspace : Workspace} {number file : Nat}
    (listed : file ∈ (workspace.catalog number).files) :
    ∃ handles after, workspace.removeFile number file = (.ok handles, after) ∧
      Removed workspace number file handles after := by
  have contained : (workspace.catalog number).files.contains file = true := by simpa using listed
  simp only [removeFile, contained, if_true]
  refine ⟨_, _, rfl, ?_⟩
  constructor <;> rfl

/-- A file that the catalog does not list is not removed. -/
theorem removeFile_of_not_listed {workspace : Workspace} {number file : Nat}
    (unlisted : file ∉ (workspace.catalog number).files) :
    ∃ path, workspace.removeFile number file =
      (.error (.error (.notLoaded path)), workspace) := by
  have missing : (workspace.catalog number).files.contains file = false := by simpa using unlisted
  exact ⟨_, by simp only [removeFile, missing, Bool.false_eq_true, if_false]; rfl⟩

/-! ## Steps -/

/-- Only what lies outside files, entries and catalogs may differ. -/
structure SameStores (workspace after : Workspace) : Prop where
  files : after.files = workspace.files
  entries : after.entries = workspace.entries
  catalogs : after.catalogs = workspace.catalogs

/-- One step of a workspace. -/
inductive Step (workspace : Workspace) : Workspace → Prop
  | quiet {after : Workspace} (same : SameStores workspace after) : Step workspace after
  | registered {number : Nat} {path : Files.Path} {keyFile : KeyFile} {handles : List Nat}
      {after : Workspace} (sound : keyFile.Sound)
      (done : Registered workspace number path keyFile handles after) : Step workspace after
  | written {handle file : Nat} {entry : Entry} {loaded : LoadedFile} {option : RepoOption}
      {value : Value} {after : Workspace} (stands : workspace.entryAt? handle = some entry)
      (attached : entry.file = some file) (found : workspace.fileAt? file = some loaded)
      (done : SameStores (workspace.setKeyFile file
        (option.spec.write loaded.keyFile (.text entry.id) value).2) after) : Step workspace after
  | removed {number file : Nat} {handles : List Nat} {after : Workspace}
      (listed : file ∈ (workspace.catalog number).files)
      (done : Removed workspace number file handles after) : Step workspace after

/-- Any number of steps. -/
abbrev Steps : Workspace → Workspace → Prop := Relation.ReflTransGen Step

theorem SameStores.steps {workspace after : Workspace} (same : SameStores workspace after) :
    Steps workspace after :=
  .single (.quiet same)

theorem steps_report (workspace : Workspace) (events : List Event) :
    Steps workspace (workspace.report events) :=
  SameStores.steps ⟨rfl, rfl, rfl⟩

/-! ## Operations -/

theorem steps_parse (workspace : Workspace) (number : Nat) (name : Text) :
    Steps workspace (workspace.parse number name).2 := by
  cases parsed : workspace.parse number name with
  | mk outcome after =>
    cases outcome with
    | ok handles =>
      obtain ⟨keyFile, loaded, done⟩ := registered_of_parse parsed
      exact .single (.registered (KeyFile.sound_of_loadFile loaded) done)
    | error failure =>
      refine SameStores.steps ?_
      simp only [parse] at parsed
      split at parsed
      · obtain ⟨-, rfl⟩ := Prod.mk.inj parsed
        exact ⟨rfl, rfl, rfl⟩
      · simp at parsed

theorem steps_reportFailure (workspace : Workspace) (path : Text) (failure : Failure) :
    Steps workspace (workspace.reportFailure path failure) := by
  unfold reportFailure
  split
  · exact steps_report _ _
  · exact .refl

theorem steps_loadNames (workspace : Workspace) (number : Nat) (directory : Text) (suffix : Value)
    (names : List Text) :
    Steps workspace (workspace.loadNames number directory suffix names).2 := by
  induction names generalizing workspace with
  | nil => exact .refl
  | cons name rest ih =>
    unfold loadNames
    split
    · exact .refl
    · exact ih workspace
    · have parsed := steps_parse workspace number (Files.Path.entryText directory name)
      simp only
      split
      · rename_i failed
        rw [failed] at parsed
        exact parsed.trans (steps_reportFailure _ _ _)
      · rename_i done
        rw [done] at parsed
        exact parsed.trans (ih _)

theorem steps_loadDirectory (workspace : Workspace) (number : Nat) (directory : Text)
    (suffix : Value) : Steps workspace (workspace.loadDirectory number directory suffix).2 := by
  unfold loadDirectory
  split
  · exact .refl
  · rename_i names _
    have loaded := steps_loadNames workspace number directory suffix names
    split
    · rename_i failed
      rwa [failed] at loaded
    · rename_i done
      rw [done] at loaded
      exact loaded.trans (steps_report _ _)

theorem steps_loadDirectories (workspace : Workspace) (number : Nat) (suffix : Value)
    (directories : List Value) :
    Steps workspace (workspace.loadDirectories number suffix directories).2 := by
  induction directories generalizing workspace with
  | nil => exact .refl
  | cons directory rest ih =>
    cases directory with
    | text directory =>
      unfold loadDirectories
      split
      · exact .refl
      · have loaded := steps_loadDirectory workspace number directory suffix
        split
        · rename_i failed
          rwa [failed] at loaded
        · rename_i done
          rw [done] at loaded
          exact loaded.trans (ih _)
      · exact (steps_report _ _).trans (ih _)
    | _ => exact .refl

theorem steps_loadConfigured (workspace : Workspace) (number : Nat) :
    Steps workspace (workspace.loadConfigured number).2 := by
  unfold loadConfigured
  simp only
  generalize workspace.settings.obtain workspace.settingsSource = obtained
  obtain ⟨⟨settings, events⟩, cache⟩ := obtained
  have informed : Steps workspace { workspace.report events with settings := cache } :=
    SameStores.steps ⟨rfl, rfl, rfl⟩
  split
  · exact informed
  · split
    · exact informed
    · exact informed.trans (steps_loadDirectories _ _ _ _)

theorem steps_removeFile (workspace : Workspace) (number file : Nat) :
    Steps workspace (workspace.removeFile number file).2 := by
  by_cases listed : file ∈ (workspace.catalog number).files
  · obtain ⟨handles, after, result, done⟩ := removeFile_of_listed listed
    rw [result]
    exact .single (.removed listed done)
  · obtain ⟨path, result⟩ := removeFile_of_not_listed listed
    rw [result]

/-- What setting an option of an attached entry leads to. -/
theorem set_of_attached {workspace : Workspace} {entry : Entry} {file : Nat} {loaded : LoadedFile}
    (attached : entry.file = some file) (found : workspace.fileAt? file = some loaded)
    (option : RepoOption) (value : Value) :
    (workspace.set entry (.registered option) value).1 =
        (option.spec.write loaded.keyFile (.text entry.id) value).1 ∧
      SameStores (workspace.setKeyFile file
          (option.spec.write loaded.keyFile (.text entry.id) value).2)
        (workspace.set entry (.registered option) value).2 ∧
      (workspace.set entry (.registered option) value).2.tree = workspace.tree := by
  simp only [set, registered, attachedFile, attached, found]
  generalize option.spec.write loaded.keyFile (.text entry.id) value = written
  obtain ⟨outcome, keyFile⟩ := written
  cases outcome <;> exact ⟨rfl, ⟨rfl, rfl, rfl⟩, rfl⟩

/-- Why a call does not reach a key file: the argument cannot be looked up or shown, or else the
call is a mistake, for which there is an error. -/
inductive Unreached (argument : OptionArgument) : Failure → Prop
  | faulty {fault : ArgumentFault} (found : argument.fault? = some fault) :
      Unreached argument (.argument fault)
  | mistaken {error : RepoError} (sound : argument.fault? = none)
      (category : error.category = .argument) : Unreached argument (.error error)

theorem registered_of_isRegistered_eq_false {argument : OptionArgument}
    (foreign : argument.isRegistered = false) :
    ∃ failure, registered argument = .error failure ∧ Unreached argument failure := by
  cases found : argument.fault? with
  | some fault =>
    refine ⟨.argument fault, ?_, .faulty found⟩
    cases argument with
    | registered option => cases foreign
    | _ => simp only [registered, found]
  | none =>
    refine ⟨.error { category := .argument, problem := .unregistered argument.display }, ?_,
      .mistaken found rfl⟩
    cases argument with
    | registered option => cases foreign
    | _ => simp only [registered, found]

/-- What a call needs to reach the key file: a registered option and an attached entry. -/
theorem set_of_detached {workspace : Workspace} {entry : Entry} {argument : OptionArgument}
    (refused : ∀ option file loaded, argument = .registered option → entry.file = some file →
      workspace.fileAt? file ≠ some loaded) (value : Value) :
    ∃ failure, Unreached argument failure ∧
      workspace.set entry argument value = (.error failure, workspace) ∧
      workspace.get entry argument = .error failure := by
  cases known : argument.isRegistered with
  | false =>
    obtain ⟨failure, found, reason⟩ := registered_of_isRegistered_eq_false known
    exact ⟨failure, reason, by simp only [set, found], by simp only [get, found]⟩
  | true =>
    cases argument with
    | registered option =>
      have lost : workspace.attachedFile entry = .error (.error (.detached entry.id)) := by
        unfold attachedFile
        split
        · rename_i file attached
          split
          · rename_i loaded found
            exact absurd found (refused option file loaded rfl attached)
          · rfl
        · rfl
      refine ⟨.error (.detached entry.id), .mistaken rfl rfl, ?_, ?_⟩
      · simp [set, registered, lost]
      · simp [get, registered, lost]
    | _ => cases known

theorem steps_set {workspace : Workspace} {handle : Nat} {entry : Entry}
    (stands : workspace.entryAt? handle = some entry) (argument : OptionArgument) (value : Value) :
    Steps workspace (workspace.set entry argument value).2 := by
  by_cases reached : ∃ option file loaded, argument = .registered option ∧ entry.file = some file ∧
      workspace.fileAt? file = some loaded
  · obtain ⟨option, file, loaded, rfl, attached, found⟩ := reached
    exact .single (.written stands attached found (set_of_attached attached found option value).2.1)
  · have refused : ∀ option file loaded, argument = .registered option → entry.file = some file →
        workspace.fileAt? file ≠ some loaded :=
      fun option file loaded same attached found =>
        reached ⟨option, file, loaded, same, attached, found⟩
    obtain ⟨failure, -, result, -⟩ := set_of_detached refused value
    rw [result]

theorem sameStores_saveAs (workspace : Workspace) (file : LoadedFile) (target : Files.Path)
    (mishap : Option Files.Mishap) :
    SameStores workspace (workspace.saveAs file target mishap).2 := by
  unfold saveAs
  simp only
  split
  · exact ⟨rfl, rfl, rfl⟩
  · split <;> exact ⟨rfl, rfl, rfl⟩

theorem SameStores.trans {workspace between after : Workspace}
    (first : SameStores workspace between) (second : SameStores between after) :
    SameStores workspace after :=
  ⟨second.files.trans first.files, second.entries.trans first.entries,
    second.catalogs.trans first.catalogs⟩

theorem sameStores_saveFiles (workspace : Workspace) (mishaps : List (Option Files.Mishap))
    (files : List LoadedFile) : SameStores workspace (workspace.saveFiles mishaps files).2 := by
  induction files generalizing workspace mishaps with
  | nil => exact ⟨rfl, rfl, rfl⟩
  | cons file rest ih =>
    unfold saveFiles
    have saved := sameStores_saveAs workspace file file.path (mishaps.headD none)
    split
    · rename_i failed
      rwa [failed] at saved
    · rename_i done
      rw [done] at saved
      exact saved.trans (ih _ _)

/-! ## Runs -/

/-- A stranger is refused, as long as the catalogs list loaded files only. -/
theorem removeStranger_eq {workspace : Workspace} {number : Nat}
    (bounded : ∀ file ∈ (workspace.catalog number).files, file < workspace.files.length)
    (stranger : LoadedFile) :
    ∃ path, workspace.removeStranger number stranger =
      (.error (.error (.notLoaded path)), workspace) := by
  let widened := { workspace with files := workspace.files ++ [stranger] }
  have unlisted : workspace.files.length ∉ (widened.catalog number).files :=
    fun member => absurd (bounded _ member) (Nat.lt_irrefl _)
  obtain ⟨path, result⟩ := removeFile_of_not_listed unlisted
  refine ⟨path, ?_⟩
  simp only [removeStranger]
  rw [show { workspace with files := workspace.files ++ [stranger] } = widened from rfl, result]
  simp [widened]

/-- Every operation is made of steps. -/
theorem steps_perform {workspace : Workspace}
    (bounded : ∀ number, ∀ file ∈ (workspace.catalog number).files, file < workspace.files.length)
    (operation : Operation) : Steps workspace (workspace.perform operation) := by
  cases operation with
  | parse number name => exact steps_parse workspace number name
  | loadDirectory number directory suffix =>
    exact steps_loadDirectory workspace number directory suffix
  | loadConfigured number => exact steps_loadConfigured workspace number
  | removeFile number file => exact steps_removeFile workspace number file
  | removeStranger number stranger =>
    obtain ⟨path, result⟩ := removeStranger_eq (bounded number) stranger
    rw [perform, result]
  | set handle argument value =>
    simp only [perform]
    split
    · rename_i entry stands
      exact steps_set stands argument value
    · exact .refl
  | saveFile file path mishap =>
    simp only [perform]
    split
    · exact (sameStores_saveAs workspace _ _ mishap).steps
    · exact .refl
  | save number mishaps => exact (sameStores_saveFiles workspace mishaps _).steps
  | view number => exact SameStores.steps ⟨rfl, rfl, rfl⟩
  | clearView index => exact SameStores.steps ⟨rfl, rfl, rfl⟩
  | replaceTree tree => exact SameStores.steps ⟨rfl, rfl, rfl⟩

end Workspace
end PackageRepos
