import PackageRepos.Failure

/-!
# The user's settings directory

Where the files of the user's settings are: where the environment says, or at a customary place
under the home directory.
-/

namespace PackageRepos
namespace Settings

/-- What the place of the user's files depends on. -/
structure Environment where
  assignments : List (Text × Text)
  /-- The system keeps application data apart from the home directory. -/
  isWindows : Bool := false
  /-- The home directories of named accounts. -/
  homes : List (Text × Text) := [(Text.of "root", Text.of "/root")]
deriving DecidableEq, Repr

namespace Environment

/-- The value of a variable that is set to something. -/
def nonempty? (environment : Environment) (name : String) : Option Text :=
  (environment.assignments.lookup (Text.of name)).filter fun value => !value.isEmpty

/-- A directory without slashes at its end; nothing stands for the root. -/
def homeOf (directory : Text) : Text :=
  let trimmed := (directory.reverse.dropWhile (· == '/')).reverse
  if trimmed.isEmpty then ['/'] else trimmed

/-- The home directory that a first name with a tilde stands for. -/
def home? (environment : Environment) (name : Text) : Option Text :=
  match name with
  | ['~'] => (environment.assignments.lookup (Text.of "HOME")).map homeOf
  | _ :: account => (environment.homes.lookup account).map homeOf
  | [] => none

/-- The path with its home directory written out. -/
def expand (environment : Environment) (path : Files.Path) : Except Failure Files.Path :=
  match path.root, path.names with
  | [], first :: rest =>
    if first.head? = some '~' then
      match environment.home? first with
      | some home =>
        if home.head? = some '~' then .error .homeless
        else .ok ((Files.Path.ofText home).append { names := rest })
      | none => .error .homeless
    else .ok path
  | _, _ => .ok path

/-- The directory of the user's settings. -/
def userDirectory (environment : Environment) : Except Failure Files.Path :=
  let home := environment.expand (.ofText ['~'])
  match environment.nonempty? "REPOCONF_CONFIG_DIR" with
  | some directory => environment.expand (.ofText directory)
  | none =>
    if environment.isWindows then
      match environment.nonempty? "LOCALAPPDATA" with
      | some directory =>
        .ok ((Files.Path.ofText directory).append (.ofText (Text.of "RepoConf/config")))
      | none => home.map (·.append (.ofText (Text.of "AppData/Local/RepoConf/config")))
    else home.map (·.append (.ofText (Text.of ".repoconf")))

end Environment
end Settings
end PackageRepos
