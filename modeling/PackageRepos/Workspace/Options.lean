import PackageRepos.RepoOption.Access
import PackageRepos.Workspace.Basic

/-!
# Options of entries

An entry gives typed access to the options of its section: single options, and all of them at once
with a fallback for those that are not set.
-/

namespace PackageRepos
namespace Workspace

/-- The registered option that an argument is. -/
def registered (argument : OptionArgument) : Except Failure RepoOption :=
  match argument with
  | .registered option => .ok option
  | other =>
    match other.fault? with
    | some fault => .error (.argument fault)
    | none => .error (.error { category := .argument, problem := .unregistered other.display })

/-- The handle of the file of an entry and the file. -/
def attachedFile (workspace : Workspace) (entry : Entry) : Except Failure (Nat × LoadedFile) :=
  match entry.file with
  | some handle =>
    match workspace.fileAt? handle with
    | some file => .ok (handle, file)
    | none => .error (.error (.detached entry.id))
  | none => .error (.error (.detached entry.id))

/-- A failure to read an option, as an error that names the file. An option that is not set has its
default, if there is one. -/
def explain (spec : OptionSpec) (path : Text) (failure : Failure) : Except Failure Value :=
  match failure with
  | .lookup (.noKey key group) =>
    if spec.hasDefault then .ok spec.default
    else
      .error (.error
        { category := .notSet
          problem := .notSet spec.key
          path := some path
          key := some spec.key
          cause := some (.lookup (.noKey key group)) })
  | .lookup fault =>
    .error (.error
      { category := .keyFile
        problem := .lookup spec.key fault
        path := some path
        key := some spec.key
        cause := some (.lookup fault) })
  | .error error =>
    if error.category = .value then
      .error (.error
        { category := .value
          problem := error.problem
          path := some path
          key := some spec.key
          cause := some (error.cause.getD (.error .value)) })
    else .error (.error error)
  | other => .error other

/-- The value of a registered option in a section of a file. -/
def valueIn (file : LoadedFile) (id : Text) (option : RepoOption) : Except Failure Value :=
  match option.spec.read file.keyFile (.text id) with
  | .ok value => .ok value
  | .error failure => explain option.spec file.path.toText failure

/-- The value of an option of an entry. -/
def get (workspace : Workspace) (entry : Entry) (argument : OptionArgument) :
    Except Failure Value :=
  match registered argument with
  | .error failure => .error failure
  | .ok option =>
    match workspace.attachedFile entry with
    | .error failure => .error failure
    | .ok (_, file) => valueIn file entry.id option

/-- Sets an option of an entry; an empty value removes it. -/
def set (workspace : Workspace) (entry : Entry) (argument : OptionArgument) (value : Value) :
    Outcome Unit :=
  match registered argument with
  | .error failure => (.error failure, workspace)
  | .ok option =>
    match workspace.attachedFile entry with
    | .error failure => (.error failure, workspace)
    | .ok (handle, file) =>
      let (written, keyFile) := option.spec.write file.keyFile (.text entry.id) value
      let after := workspace.setKeyFile handle keyFile
      match written with
      | .error failure => (.error failure, after)
      | .ok () =>
        (.ok (), after.report [.setOption entry.id option.spec.key file.path.toText])

/-- All options of a section, in canonical order. -/
structure Snapshot where
  values : List (RepoOption × Value)
deriving Repr

/-- The value of an option in a snapshot. -/
def Snapshot.value (snapshot : Snapshot) (option : RepoOption) : Value :=
  (snapshot.values.lookup option).getD .absent

/-- At least one way to locate the repository's metadata is set. -/
def Snapshot.hasSource (snapshot : Snapshot) : Bool :=
  (snapshot.value .baseurl).isTrue || (snapshot.value .mirrorlist).isTrue ||
    (snapshot.value .metalink).isTrue

/-- The value of an option for a snapshot: the fallback stands in for a value that is not set. -/
def settledValue (workspace : Workspace) (entry : Entry) (option : RepoOption) :
    Except Failure Value :=
  match workspace.get entry (.registered option) with
  | .ok value => .ok value
  | .error (.error error) =>
    if error.category = .notSet then .ok option.spec.fallback else .error (.error error)
  | .error failure => .error failure

/-- The values of options for a snapshot, up to the first failure. -/
def settledValues (workspace : Workspace) (entry : Entry) :
    List RepoOption → Except Failure (List (RepoOption × Value))
  | [] => .ok []
  | option :: rest =>
    match workspace.settledValue entry option with
    | .error failure => .error failure
    | .ok value => (workspace.settledValues entry rest).map ((option, value) :: ·)

/-- All options of an entry at once. -/
def snapshot (workspace : Workspace) (entry : Entry) : Except Failure Snapshot :=
  (workspace.settledValues entry RepoOption.all).map fun values => { values }

end Workspace
end PackageRepos
