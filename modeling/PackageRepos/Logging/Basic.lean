import PackageRepos.Event
import PackageRepos.Files.Stream
import PackageRepos.Logging.Layout
import PackageRepos.Logging.Level
import PackageRepos.OrderedMap

/-!
# Loggers and handlers

Loggers have names with dots; what a logger does not decide is decided by the loggers above it, and
at last by the root. An event is recorded when its level reaches the level in effect at its logger;
it is then handed to the handlers of the logger and of those above it. Handlers are shared: loggers
refer to them by number.
-/

namespace PackageRepos
namespace Logging

/-- What lets events through by the names of their loggers. -/
inductive Filter where
  /-- Events of the logger and of those below it pass; without a name, all of them. -/
  | below (name : Text)
  /-- Something that is no name, against which no event can be held. -/
  | ill (kind : String)
deriving DecidableEq, Repr

/-- A file that a handler writes to. -/
structure LogFile where
  path : Text
  mode : Value := .text ['a']
  encoding : Value := .absent
  errors : Value := .absent
  /-- The file is opened when it is first written to. -/
  isDelayed : Bool := false

/-- What a handler of files does before it writes. -/
inductive FileKind where
  | plain
  /-- A file that was moved away is made again. -/
  | watched
  /-- A file that has grown too large is moved away, and a number of former files is kept. -/
  | rotating (maxBytes backups : Value)
  /-- A file is moved away when its time has come. -/
  | timed (backups : Value)
  /-- It is not decided when a file is to be moved away, so that nothing is written. -/
  | undecided

/-- What a handler hands the events on to that it has held. -/
inductive Recipient where
  | nobody
  | handler (number : Nat)
  /-- Something that takes no events. -/
  | other (kind : String)
deriving DecidableEq, Repr

/-- What a handler does with events. -/
inductive Sink where
  | stream
  | nowhere
  | file (kind : FileKind) (log : LogFile)
  /-- Events are held until there are too many, and then forgotten. -/
  | buffer (capacity : Value)
  /-- Events are held until there are too many or a severe one comes, and then handed on. -/
  | memory (capacity flushLevel : Value) (recipient : Recipient)
  /-- Events are sent away, which leaves no trace. -/
  | remote (className : String)
  /-- Nothing was decided about what to do. -/
  | undecided

namespace Sink

/-- The name of a sink's class. -/
def className : Sink → String
  | stream => "StreamHandler"
  | nowhere => "NullHandler"
  | file .plain _ => "FileHandler"
  | file .watched _ => "WatchedFileHandler"
  | file (.rotating ..) _ => "RotatingFileHandler"
  | file (.timed _) _ => "TimedRotatingFileHandler"
  | file .undecided _ => "BaseRotatingHandler"
  | buffer _ => "BufferingHandler"
  | memory .. => "MemoryHandler"
  | remote className => className
  | undecided => "Handler"

/-- The path of the file that is written to. -/
def path? : Sink → Option Text
  | file _ log => some log.path
  | _ => none

/-- The size beyond which a file is moved away. -/
def maxBytes? : Sink → Option Value
  | file (.rotating maxBytes _) _ => some maxBytes
  | _ => none

/-- The number of former files that are kept. -/
def backups? : Sink → Option Value
  | file (.rotating _ backups) _ | file (.timed backups) _ => some backups
  | _ => none

/-- Sets an attribute of what is done with events. Attributes that a sink does not go by change
nothing. -/
def set (sink : Sink) (name : String) (value : Value) : Sink :=
  match name, sink with
  | "maxBytes", file (.rotating _ backups) log => file (.rotating value backups) log
  | "backupCount", file (.rotating maxBytes _) log => file (.rotating maxBytes value) log
  | "backupCount", file (.timed _) log => file (.timed value) log
  | "mode", file kind log => file kind { log with mode := value }
  | "encoding", file kind log => file kind { log with encoding := value }
  | "errors", file kind log => file kind { log with errors := value }
  | "delay", file kind log => file kind { log with isDelayed := value.isTrue }
  | "capacity", buffer _ => buffer value
  | "capacity", memory _ flushLevel recipient => memory value flushLevel recipient
  | "flushLevel", memory capacity _ recipient => memory capacity value recipient
  | "target", memory capacity flushLevel _ =>
    memory capacity flushLevel (if value.isTrue then .other value.kindName else .nobody)
  | _, sink => sink

/-- What is done with events when there is nobody to hand them on to. -/
def released : Sink → Sink
  | memory capacity flushLevel _ => memory capacity flushLevel .nobody
  | sink => sink

end Sink

/-- What events are handed to. -/
structure Handler where
  sink : Sink
  /-- Events below the level are left out, if it is a number. -/
  level : Value := .int 0
  /-- The layout of lines, if one was given. -/
  layout : Option Layout := none
  filters : List Filter := []
  /-- The name by which settings refer to the handler. -/
  name : Option Text := none
  /-- The file of the handler, while it is open. -/
  stream : Option Files.Stream := none
  /-- It was noted which file is open, so that it can be told from another one at its path. -/
  isNoted : Bool := false
  /-- Newer settings have taken the place of those that the handler is from. -/
  isRetired : Bool := false
  /-- The events that are held, the first one first. -/
  held : List Event := []
  /-- Attributes that were set, the last one first. -/
  attributes : List (Text × Value) := []

namespace Handler

/-- A stream handler with the packaged layout. -/
def console (level : Level) : Handler where
  sink := .stream
  level := level.toValue
  layout := some .packaged

/-- Sets an attribute of a handler. -/
def set (handler : Handler) (name : Text) (value : Value) : Handler :=
  let noted := { handler with attributes := (name, value) :: handler.attributes }
  match String.ofList name with
  | "level" => { noted with level := value }
  | "formatter" => if value.isTrue then noted else { noted with layout := none }
  | "filters" => if value.isTrue then noted else { noted with filters := [] }
  | name => { noted with sink := handler.sink.set name value }

/-- A number that a handler goes by, or that was set all the same. -/
def attributeOr (handler : Handler) (name : String) (own : Option Value) : Value :=
  (own.or (handler.attributes.lookup (Text.of name))).getD .absent

/-- The size beyond which the file of a handler is moved away. -/
def maxBytes (handler : Handler) : Value := handler.attributeOr "maxBytes" handler.sink.maxBytes?

/-- The number of former files that a handler keeps. -/
def backups (handler : Handler) : Value := handler.attributeOr "backupCount" handler.sink.backups?

end Handler

/-- A logger. -/
structure Logger where
  level : Level := .unset
  /-- Events go on to the loggers above where this counts as true. -/
  propagate : Value := .bool true
  /-- The numbers of the handlers, in order. -/
  handlers : List Nat := []
  filters : List Filter := []
  isDisabled : Bool := false

/-- All loggers. -/
structure Loggers where
  root : Logger := { level := .number 30 }
  named : OrderedMap Text Logger := ∅

namespace Loggers

/-- The name is one of the root's. -/
def namesRoot (name : Text) : Bool := name.isEmpty || name == Text.of "root"

/-- The logger with a name; one that was never used is as it was made. -/
def get (loggers : Loggers) (name : Text) : Logger :=
  if namesRoot name then loggers.root else (loggers.named.get? name).getD {}

/-- Replaces the logger with a name. -/
def set (loggers : Loggers) (name : Text) (logger : Logger) : Loggers :=
  if namesRoot name then { loggers with root := logger }
  else { loggers with named := loggers.named.insert name logger }

/-- The loggers that the library itself uses. -/
def initial : Loggers :=
  let names := ["repoconf", "repoconf.config.manager", "repoconf.core.keyfile",
    "repoconf.core.multiline", "repoconf.core.repoconf", "repoconf.core.repoconf.RepoConfs"]
  { named := .ofList (names.map fun name => (Text.of name, {})) }

/-- The part of a name before its last dot. A dot at the very start parts nothing. -/
def partBefore? (name : Text) : Option Text :=
  match name.reverse.dropWhile (· != '.') with
  | _ :: char :: rest => some (char :: rest).reverse
  | _ => none

/-- The names that a name is below, the nearest first. Of two dots in a row only the last one parts
a name. Every name takes a unit of fuel. -/
def namesAboveWithin : Nat → Text → List Text
  | 0, _ => []
  | fuel + 1, name =>
    match partBefore? name with
    | none => []
    | some part => part :: namesAboveWithin fuel part.dropLast

/-- The names that a name is below, the nearest first. -/
def namesAbove (name : Text) : List Text := namesAboveWithin name.length name

/-- A logger is above another one whose name is below its own. One whose name is the beginning of
the root's takes over no logger from the root that was there before it. -/
def isAbove (loggers : Loggers) (above name : Text) : Bool :=
  let place := loggers.named.keys.idxOf
  loggers.named.contains above &&
    (!above.isPrefixOf (Text.of "root") || place above < place name)

/-- The logger that is nearest above another one. -/
def parent? (loggers : Loggers) (name : Text) : Option Text :=
  (namesAbove name).find? (loggers.isAbove · name)

/-- The names of a logger and of those above it but the root. Every name takes a unit of fuel. -/
def lineWithin (loggers : Loggers) : Nat → Text → List Text
  | 0, name => [name]
  | fuel + 1, name =>
    match loggers.parent? name with
    | some above => name :: loggers.lineWithin fuel above
    | none => [name]

/-- A logger and those above it, the nearest first and the root at last. -/
def line (loggers : Loggers) (name : Text) : List Logger :=
  if namesRoot name then [loggers.root]
  else (loggers.lineWithin name.length name).map loggers.get ++ [loggers.root]

/-- The level in effect at a logger: the first that is not zero, from the logger upwards. -/
def levelInEffect (loggers : Loggers) (name : Text) : Int :=
  (((loggers.line name).map fun logger => logger.level.rank).find? fun rank => rank != 0).getD 0

/-- The event reaches the level in effect at its logger, which is not disabled. -/
def admits (loggers : Loggers) (event : Event) : Bool :=
  !(loggers.get event.logger).isDisabled &&
    decide (loggers.levelInEffect event.logger ≤ event.level.number)

/-- The numbers of the handlers that an event goes to. -/
def handlersFor : List Logger → List Nat
  | [] => []
  | logger :: above =>
    logger.handlers ++ if logger.propagate.isTrue then handlersFor above else []

end Loggers
end Logging
end PackageRepos
