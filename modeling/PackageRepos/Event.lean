import PackageRepos.Document.Parser
import PackageRepos.RepoError
import PackageRepos.Settings.Status

/-!
# Events

What operations report while they run. An event is issued by a named logger at a level; its wording
stands in one place.
-/

namespace PackageRepos

/-- The levels of events that operations report. -/
inductive EventLevel where
  | debug
  | info
  | error
deriving DecidableEq, Repr

namespace EventLevel

/-- The name of a level. -/
def name : EventLevel → String
  | debug => "DEBUG"
  | info => "INFO"
  | error => "ERROR"

/-- The number of a level; a greater number is more severe. -/
def number : EventLevel → Int
  | debug => 10
  | info => 20
  | error => 40

end EventLevel

/-- Why the settings of a user cannot be read. -/
inductive SettingsFault where
  | file (fault : Files.Fault)
  | document (fault : Document.Fault)
deriving Repr

/-- What operations report. -/
inductive Event where
  | folded (path : Text) (linesBefore linesAfter : Nat)
  | parsed (source : Text) (groups comments : Nat)
  | loadedFile (path : Text) (ids : List Text)
  | loadFailed (path : Text) (error : RepoError)
  | loadedDirectory (path : Text) (count : Nat)
  | skippedDirectory (path : Text)
  | removedFile (path : Text) (count : Nat)
  | savedFile (path : Text)
  | setOption (id key path : Text)
  | packagedMissing (part filename : Text)
  | packagedInvalid (part filename : Text) (fault : Document.Fault)
  | userUnreadable (path : Text) (fault : SettingsFault)
  | settingsLoaded (statuses : List (Text × Settings.Status))
  | loggingReady
  | loggingInvalid (reason : Text)
  | debugTarget (logger : Text)
deriving Repr

namespace Event

/-- The logger that issues the event. -/
def logger : Event → Text
  | folded .. => Text.of "repoconf.core.multiline"
  | parsed .. => Text.of "repoconf.core.keyfile"
  | loadedFile .. | loadFailed .. | loadedDirectory .. | skippedDirectory .. | removedFile .. =>
    Text.of "repoconf.core.repoconf.RepoConfs"
  | savedFile .. | setOption .. => Text.of "repoconf.core.repoconf"
  | packagedMissing .. | packagedInvalid .. | userUnreadable .. | settingsLoaded .. =>
    Text.of "repoconf.config.manager"
  | loggingReady | loggingInvalid .. => Text.of "repoconf"
  | debugTarget logger => logger

/-- The level of the event. -/
def level : Event → EventLevel
  | folded .. | parsed .. | loadedFile .. | removedFile .. | setOption .. => .debug
  | loadedDirectory .. | skippedDirectory .. | savedFile .. | settingsLoaded .. | loggingReady
  | debugTarget .. => .info
  | loadFailed .. | packagedMissing .. | packagedInvalid .. | userUnreadable ..
  | loggingInvalid .. => .error

/-- The wording of the event. -/
def message : Event → Text
  | folded path linesBefore linesAfter =>
    Text.of "Normalized " ++ path ++ Text.of s!" ({linesBefore} -> {linesAfter} lines)"
  | parsed source groups comments =>
    Text.of "Parsed key file " ++ source ++
      Text.of s!" ({groups} groups, {comments} comment lines)"
  | loadedFile path ids =>
    let listed := Text.join (Text.of ", ") ids
    Text.of "Loaded " ++ path ++ Text.of ": " ++
      if listed.isEmpty then Text.of "no sections" else listed
  | loadFailed path error =>
    Text.of "Failed to load repository file " ++ path ++ Text.of ": " ++ error.message
  | loadedDirectory path count => Text.of s!"Loaded {count} repositories from " ++ path
  | skippedDirectory path => Text.of "Skipping missing repository directory: " ++ path
  | removedFile path count => Text.of "Removed " ++ path ++ Text.of s!" ({count} repositories)"
  | savedFile path => Text.of "Saved repository file: " ++ path
  | setOption id key path => Text.of "Set " ++ id ++ '.' :: key ++ Text.of " in " ++ path
  | packagedMissing part filename =>
    Text.of "Missing packaged config for " ++ part ++ Text.of " (" ++ filename ++ [')']
  | packagedInvalid part filename fault =>
    Text.of "Invalid packaged config for " ++ part ++ Text.of " (" ++ filename ++
      Text.of "): " ++ fault.message
  | userUnreadable path fault =>
    let reason := match fault with
      | .file fault => fault.message
      | .document fault => fault.message
    Text.of "Could not parse user config " ++ path ++ Text.of ": " ++ reason
  | settingsLoaded statuses =>
    let summaries := statuses.map fun (part, status) =>
      part ++ ':' :: ' ' :: Text.of status.word
    Text.of "Config startup: " ++ Text.join (Text.of " | ") summaries
  | loggingReady => Text.of "===== Logging initialised from config files ====="
  | loggingInvalid reason =>
    Text.of "Invalid logging config, using console only: " ++ reason
  | debugTarget logger => Text.of "Debug override active for logger '" ++ logger ++ ['\'']

end Event
end PackageRepos
