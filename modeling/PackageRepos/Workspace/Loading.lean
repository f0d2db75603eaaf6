import PackageRepos.Workspace.Basic

/-!
# Loading and removing files

A file is loaded as a whole or not at all. A directory is loaded file by file, in the order of its
listing; the first file that fails ends the loading, and the files before it stay loaded.
-/

namespace PackageRepos
namespace Workspace

/-- Registers a key file and its groups with a catalog. The result is the handles of the new
entries. -/
def register (workspace : Workspace) (number : Nat) (path : Files.Path) (keyFile : KeyFile) :
    List Nat × Workspace :=
  let file := workspace.files.length
  let added := keyFile.groupNames.map fun id => { id, file := some file : Entry }
  let handles := List.range' workspace.entries.length added.length
  let catalog := workspace.catalog number
  let listed : Catalog :=
    { files := catalog.files ++ [file], entries := catalog.entries ++ handles }
  let loaded : LoadedFile := { path, keyFile }
  let registered :=
    { workspace with
      files := workspace.files ++ [loaded]
      entries := workspace.entries ++ added }
  (handles, registered.setCatalog number listed)

/-- Loads one file, or leaves everything as it is but for the journal. -/
def parse (workspace : Workspace) (number : Nat) (pathText : Text) : Outcome (List Nat) :=
  let path := Files.Path.ofText pathText
  match KeyFile.loadFile workspace.tree path with
  | (.error failure, events) => (.error failure, workspace.report events)
  | (.ok keyFile, events) =>
    let (handles, registered) := (workspace.report events).register number path keyFile
    (.ok handles, registered.report [.loadedFile path.toText keyFile.groupNames])

/-- The name ends with the suffix, or with one of several. -/
def matchesSuffix (name : Text) (suffix : Value) : Except ArgumentFault Bool :=
  match suffix with
  | .text ending => .ok (Text.endsWith name ending)
  | .tuple endings => anyEnding endings
  | other => .error (.notASuffix other.kindName)
where
  /-- The name ends with one of the endings, the first that does being decisive. -/
  anyEnding : List Value → Except ArgumentFault Bool
    | [] => .ok false
    | .text ending :: rest => if Text.endsWith name ending then .ok true else anyEnding rest
    | other :: _ => .error (.suffixItemNotText other.kindName)

/-- Reports an error of this library that ended the loading of a file. -/
def reportFailure (workspace : Workspace) (path : Text) (failure : Failure) : Workspace :=
  match failure with
  | .error error => workspace.report [.loadFailed path error]
  | _ => workspace

/-- Loads the files with the given names in a directory whose names end with the suffix. -/
def loadNames (workspace : Workspace) (number : Nat) (directory : Text) (suffix : Value) :
    List Text → Outcome (List Nat)
  | [] => (.ok [], workspace)
  | name :: rest =>
    match matchesSuffix name suffix with
    | .error fault => (.error (.argument fault), workspace)
    | .ok false => workspace.loadNames number directory suffix rest
    | .ok true =>
      let path := Files.Path.entryText directory name
      match workspace.parse number path with
      | (.error failure, tried) => (.error failure, tried.reportFailure path failure)
      | (.ok handles, loaded) =>
        let (further, after) := loaded.loadNames number directory suffix rest
        (further.map (handles ++ ·), after)

/-- Loads the files in a directory whose names end with the suffix. -/
def loadDirectory (workspace : Workspace) (number : Nat) (directory : Text) (suffix : Value) :
    Outcome (List Nat) :=
  match workspace.tree.entries directory with
  | .error fault => (.error (.unopenable directory fault), workspace)
  | .ok names =>
    match workspace.loadNames number directory suffix names with
    | (.error failure, tried) => (.error failure, tried)
    | (.ok handles, loaded) =>
      (.ok handles, loaded.report [.loadedDirectory directory handles.length])

/-- The suffix of repository files, unless another one is asked for. -/
def defaultSuffix : Value := .text (Text.of ".repo")

/-- The directories that a setting lists. -/
def listedDirectories (setting : Value) : Except ArgumentFault (List Value) :=
  if setting.isTrue then
    match setting with
    | .list items | .tuple items => .ok items
    | .text text => .ok (text.map fun char => .text [char])
    | .mapping entries => .ok (entries.map fun (key, _) => .text key)
    | other => .error (.notIterable other.kindName)
  else .ok []

/-- Loads directories one after the other, skipping those that are not there. -/
def loadDirectories (workspace : Workspace) (number : Nat) (suffix : Value) :
    List Value → Outcome (List Nat)
  | [] => (.ok [], workspace)
  | .text directory :: rest =>
    match workspace.tree.examine (Files.Path.ofText directory).toText with
    | .error fault => (.error (.file fault), workspace)
    | .ok (some .directory) =>
      match workspace.loadDirectory number directory suffix with
      | (.error failure, tried) => (.error failure, tried)
      | (.ok handles, loaded) =>
        let (further, after) := loaded.loadDirectories number suffix rest
        (further.map (handles ++ ·), after)
    | .ok _ =>
      (workspace.report [.skippedDirectory directory]).loadDirectories number suffix rest
  | other :: _ => (.error (.argument (.notAPath other.kindName)), workspace)

/-- Where the settings of the workspace come from. -/
def settingsSource (workspace : Workspace) : Settings.Source :=
  { tree := workspace.tree
    userDirectory := workspace.userDirectory
    filenames := workspace.filenames
    parser := workspace.parser }

/-- Loads the directories that the settings list. -/
def loadConfigured (workspace : Workspace) (number : Nat) : Outcome (List Nat) :=
  let ((settings, events), cache) := workspace.settings.obtain workspace.settingsSource
  let informed := { workspace.report events with settings := cache }
  match settings with
  | .error failure => (.error failure, informed)
  | .ok settings =>
    let repositories := settings.sectionOf "repoconf"
    let suffix := (repositories.get? (Text.of "repo_file_suffix")).getD .absent
    let listed := (repositories.get? (Text.of "reposdir")).getD .absent
    match listedDirectories listed with
    | .error fault => (.error (.argument fault), informed)
    | .ok directories =>
      informed.loadDirectories number (if suffix.isTrue then suffix else defaultSuffix) directories

/-- Removes a file from a catalog and detaches the entries it declared, which are the result. -/
def removeFile (workspace : Workspace) (number file : Nat) : Outcome (List Nat) :=
  let catalog := workspace.catalog number
  let path := ((workspace.fileAt? file).map fun loaded => loaded.path.toText).getD []
  if catalog.files.contains file then
    let declares := fun handle =>
      (workspace.entryAt? handle).any fun entry => entry.file == some file
    let removed := catalog.entries.filter declares
    let remaining : Catalog :=
      { files := catalog.files.filter fun other => other != file
        entries := catalog.entries.filter fun handle => !declares handle }
    let detach := fun (handle : Nat) (entry : Entry) =>
      if removed.contains handle then { entry with file := none } else entry
    let detached := { workspace with entries := workspace.entries.mapIdx detach }
    (.ok removed,
      (detached.setCatalog number remaining).report [.removedFile path removed.length])
  else (.error (.error (.notLoaded path)), workspace)

end Workspace
end PackageRepos
