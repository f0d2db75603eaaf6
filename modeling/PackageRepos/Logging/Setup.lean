import PackageRepos.Logging.Configuration
import PackageRepos.Settings.Basic
import PackageRepos.Text.Blank

/-!
# Setting up logging

Logging is set up from the settings, or, when these are unusable, with a console at the root. After
that the loggers that the environment names are switched to debugging, and each gets a handler that
lets debugging events through unless it has one.
-/

namespace PackageRepos
namespace Logging

/-- What logging is set up on. -/
structure Host where
  state : State := {}
  /-- The directory of the user's settings. -/
  userDirectory : Files.Path := {}
  filenames : OrderedMap Text Text := Settings.defaultFilenames
  settings : Settings.Cache := {}
  /-- What reads the files of the settings. -/
  parser : Document.Parser := default
  /-- The variables of the environment. -/
  environment : List (Text × Text) := []
  /-- The events recorded so far. -/
  journal : List Event := []

namespace Host

/-- What a step comes to, and the host that it leaves. -/
abbrev Step := Except Failure Unit × Host

/-- Acts on the state of the host. -/
def act (host : Host) (action : State → Act) : Step :=
  let (outcome, state) := action host.state
  (outcome, { host with state })

/-- Records an event, if its level reaches the level in effect, and hands it on. -/
def record (host : Host) (event : Event) : Step :=
  if host.state.loggers.admits event then
    { host with journal := host.journal ++ [event] }.act (·.deliver event)
  else (.ok (), host)

/-- Records events one after the other. -/
def recordAll (host : Host) : List Event → Step
  | [] => (.ok (), host)
  | event :: rest =>
    match host.record event with
    | (.ok (), recorded) => recorded.recordAll rest
    | failed => failed

/-- The settings that stand in for unusable ones: the root gets a console for events that
inform. -/
def consoleSheet : Sheet :=
  Settings.entriesOf
    [("version", .int 1), ("disable_existing_loggers", .bool false),
      ("formatters", Settings.mappingOf
        [("simple", Settings.mappingOf [("format", Settings.word Settings.lineLayout)])]),
      ("handlers", Settings.mappingOf
        [("console", Settings.mappingOf
          [("class", Settings.word "logging.StreamHandler"),
            ("formatter", Settings.word "simple"), ("level", Settings.word "INFO")])]),
      ("root", Settings.mappingOf
        [("level", Settings.word "INFO"), ("handlers", .list [Settings.word "console"])])]

/-- The root gets a console for events that inform, in place of all its handlers. -/
def useConsole (host : Host) : Step := host.act (configure · consoleSheet)

/-- The loggers that the environment names for debugging. -/
def debugTargets (environment : List (Text × Text)) : List Text :=
  let listed := Text.strip ((environment.lookup (Text.of "REPOCONF_DEBUG_MODULES")).getD [])
  ((listed.splitOn ',').map Text.strip).filter fun name => !name.isEmpty

/-- The level lets debugging events through, if it is a number. -/
def showsDebugging (level : Value) : Except Failure Bool :=
  match level.worth? with
  | some worth => .ok ((Worth.ofInt Level.debug.rank).reaches worth)
  | none => .error (.argument (.notComparable "<=" level.kindName "int"))

/-- One of the levels lets debugging events through; the first that does decides. -/
def anyShowsDebugging : List Value → Except Failure Bool
  | [] => .ok false
  | level :: rest =>
    match showsDebugging level with
    | .ok false => anyShowsDebugging rest
    | outcome => outcome

/-- Switches a logger to debugging; it gets a console unless one of its handlers will do. -/
def debugging (state : State) (name : Text) : Act :=
  let logger := { state.loggers.get name with level := .debug }
  let switched := { state with loggers := state.loggers.set name logger }
  match anyShowsDebugging (logger.handlers.map fun number => (state.handler number).level) with
  | .error failure => (.error failure, switched)
  | .ok true => (.ok (), switched)
  | .ok false =>
    let (number, added) := switched.add (.console .debug)
    let handled := { logger with handlers := logger.handlers ++ [number] }
    (.ok (), { added with loggers := added.loggers.set name handled })

/-- Switches a logger to debugging, and tells so. -/
def debugLogger (host : Host) (name : Text) : Step :=
  match host.act (debugging · name) with
  | (.ok (), switched) => switched.record (.debugTarget name)
  | failed => failed

/-- Switches loggers to debugging one after the other. -/
def debugLoggers (host : Host) : List Text → Step
  | [] => (.ok (), host)
  | name :: rest =>
    match host.debugLogger name with
    | (.ok (), switched) => switched.debugLoggers rest
    | failed => failed

/-- Is a file handler among the handlers? -/
def holdsFileHandler (handlers : Value) : Except ArgumentFault Bool :=
  match handlers with
  | .mapping entries => .ok (entries.lookup (Text.of "file")).isSome
  | .list items | .tuple items => .ok (items.any isFileWord)
  | .text text => .ok (Text.occursIn (Text.of "file") text)
  | other => .error (.notAContainer other.kindName)
where
  /-- The item is the name of the file handler. -/
  isFileWord : Value → Bool
    | .text word => word == Text.of "file"
    | _ => false

/-- The handlers with the path of the log file given to the file handler. -/
def directFile (handlers : Value) (path : Text) : Except ArgumentFault Value :=
  match handlers with
  | .mapping entries =>
    match entries.lookup (Text.of "file") with
    | some (.mapping settings) =>
      let directed := OrderedMap.insertPair (Text.of "filename") (.text path) settings
      .ok (.mapping (OrderedMap.insertPair (Text.of "file") (.mapping directed) entries))
    | some (.list _) => .error .listIndexedByText
    | some other => .error (.notAssignable other.kindName)
    | none => .ok handlers
  | .text _ => .error .textIndexedByText
  | _ => .error .listIndexedByText

/-- The logging settings with the path of the log file. -/
def directSettings (settings : Sheet) (path : Text) :
    Except ArgumentFault Sheet :=
  let key := Text.of "handlers"
  match settings.get? key with
  | none => .ok settings
  | some handlers =>
    match holdsFileHandler handlers with
    | .error fault => .error fault
    | .ok false => .ok settings
    | .ok true => (directFile handlers path).map (settings.insert key)

/-- Configures the loggers from settings, and tells so. -/
def trySettings (host : Host) (settings : Sheet) : Step :=
  match host.act (configure · settings) with
  | (.ok (), configured) => configured.record .loggingReady
  | failed => failed

/-- Configures the loggers from settings, or with a console when the settings turn out to be
wrong. -/
def applySettings (host : Host) (settings : Sheet) : Step :=
  match host.trySettings settings with
  | (.ok (), configured) => (.ok (), configured)
  | (.error failure, tried) =>
    if failure.isMistake then
      match tried.useConsole with
      | (.ok (), configured) => configured.record (.loggingInvalid failure.message)
      | failed => failed
    else (.error failure, tried)

/-- Configures the loggers from settings of a version, or with a console without one. -/
def chooseSettings (host : Host) (settings : Sheet) (path : Text) : Step :=
  if ((settings.get? (Text.of "version")).getD .absent).isTrue then
    match directSettings settings path with
    | .error fault => (.error (.argument fault), host)
    | .ok directed => host.applySettings directed
  else host.useConsole

/-- Where the settings of the host come from. -/
def source (host : Host) : Settings.Source where
  tree := host.state.tree
  userDirectory := host.userDirectory
  filenames := host.filenames
  parser := host.parser

/-- Takes the settings for logging, and tells what loading them reported. -/
def obtainSettings (host : Host) : Except Failure Sheet × Host :=
  let ((settings, events), cache) := host.settings.obtain host.source
  match { host with settings := cache }.recordAll events with
  | (.error failure, informed) => (.error failure, informed)
  | (.ok (), informed) => (settings.map (·.sectionOf "logging"), informed)

/-- The directory of the log file. -/
def logDirectory (host : Host) : Text :=
  (host.environment.lookup (Text.of "REPOCONF_LOG_DIR")).getD (Text.of "logs")

/-- Makes the directory of the log file. -/
def prepareDirectory (host : Host) : Step :=
  let (outcome, tree) := host.state.tree.makeDirectories host.logDirectory
  (outcome.mapError .file, { host with state := { host.state with tree } })

/-- Sets up logging. -/
def setup (host : Host) : Step :=
  match host.prepareDirectory with
  | (.error failure, prepared) => (.error failure, prepared)
  | (.ok (), prepared) =>
    match prepared.obtainSettings with
    | (.error failure, informed) => (.error failure, informed)
    | (.ok settings, informed) =>
      let path := Files.Path.entryText host.logDirectory (Text.of "repoconf.log")
      match informed.chooseSettings settings path with
      | (.ok (), configured) => configured.debugLoggers (debugTargets configured.environment)
      | failed => failed

end Host
end Logging
end PackageRepos
