import PackageRepos.Logging.LogFile
import PackageRepos.Value.Comparison

/-!
# Classes of handlers

The classes that settings may choose for a handler, the parameters that they take, and what a
handler of a class does with events.
-/

namespace PackageRepos
namespace Logging

/-- A class of handlers. -/
inductive HandlerClass where
  | abstract
  | stream
  | null
  | file
  | watched
  | undecided
  | rotating
  | timed
  | buffering
  | memory
  | socket
  | datagram
  | syslog
  | mail
  | web
  | queue
deriving DecidableEq, Repr

namespace HandlerClass

/-- All classes. -/
def all : List HandlerClass :=
  [abstract, stream, null, file, watched, undecided, rotating, timed, buffering, memory, socket,
    datagram, syslog, mail, web, queue]

/-- The dotted name of a class in settings. -/
def path : HandlerClass → String
  | abstract => "logging.Handler"
  | stream => "logging.StreamHandler"
  | null => "logging.NullHandler"
  | file => "logging.FileHandler"
  | watched => "logging.handlers.WatchedFileHandler"
  | undecided => "logging.handlers.BaseRotatingHandler"
  | rotating => "logging.handlers.RotatingFileHandler"
  | timed => "logging.handlers.TimedRotatingFileHandler"
  | buffering => "logging.handlers.BufferingHandler"
  | memory => "logging.handlers.MemoryHandler"
  | socket => "logging.handlers.SocketHandler"
  | datagram => "logging.handlers.DatagramHandler"
  | syslog => "logging.handlers.SysLogHandler"
  | mail => "logging.handlers.SMTPHandler"
  | web => "logging.handlers.HTTPHandler"
  | queue => "logging.handlers.QueueHandler"

/-- The name of a class. -/
def word : HandlerClass → String
  | socket => "SocketHandler"
  | datagram => "DatagramHandler"
  | syslog => "SysLogHandler"
  | mail => "SMTPHandler"
  | web => "HTTPHandler"
  | queue => "QueueHandler"
  | other => other.path

/-- The class with a dotted name. -/
def ofPath? (path : Text) : Option HandlerClass :=
  all.find? fun handlerClass => Text.of handlerClass.path == path

/-- The parameters that must be given. -/
def required : HandlerClass → List String
  | file | watched | rotating | timed => ["filename"]
  | undecided => ["filename", "mode"]
  | buffering | memory => ["capacity"]
  | socket | datagram => ["host", "port"]
  | mail => ["mailhost", "fromaddr", "toaddrs", "subject"]
  | web => ["host", "url"]
  | queue => ["queue"]
  | abstract | stream | null | syslog => []

/-- The parameters that may be given. -/
def optional : HandlerClass → List String
  | abstract | null | buffering | socket | datagram | queue => []
  | stream => ["stream"]
  | file | watched => ["mode", "encoding", "delay", "errors"]
  | undecided => ["encoding", "delay", "errors"]
  | rotating => ["mode", "maxBytes", "backupCount", "encoding", "delay", "errors"]
  | timed =>
    ["when", "interval", "backupCount", "encoding", "delay", "utc", "atTime", "errors"]
  | memory => ["flushLevel", "target", "flushOnClose"]
  | syslog => ["address", "facility", "socktype"]
  | mail => ["credentials", "secure", "timeout"]
  | web => ["method", "secure", "credentials", "context"]

/-- The arguments are those that the class takes. -/
def takes (handlerClass : HandlerClass) (arguments : List (Text × Value)) : Bool :=
  let isGiven := fun (name : String) => arguments.any fun argument => argument.1 == Text.of name
  handlerClass.required.all isGiven &&
    arguments.all fun argument =>
      (handlerClass.required ++ handlerClass.optional).any fun name => Text.of name == argument.1

end HandlerClass

/-- A handler as far as its class decides it. -/
structure Making where
  sink : Sink
  /-- The file to be opened at once. -/
  opening : Option LogFile := none
  /-- What is left to check after the file was opened turns out well. -/
  isSound : Bool := true

namespace Making

/-- The arguments that a handler is made with. -/
abbrev Arguments := List (Text × Value)

/-- An argument, or what stands for one that is not given. -/
def argument (arguments : Arguments) (name : String) (usual : Value) : Value :=
  (arguments.lookup (Text.of name)).getD usual

/-- The path of a file without steps that lead back. A null character ends it. -/
def collapsed (path : Text) : Text :=
  let read := Files.Path.ofText path
  let text := { read with names := Files.Path.collapse read.names }.toText
  let whole := text.takeWhile (· != '\x00')
  if whole.isEmpty then ['.'] else whole

/-- A value is there. -/
def isGiven : Value → Bool
  | .absent => false
  | _ => true

/-- A mode can be looked through for letters. -/
def isSearchable : Value → Bool
  | .text _ | .list _ | .tuple _ | .mapping _ => true
  | _ => false

/-- A handler of a file. -/
def ofFile? (kind : FileKind) (arguments : Arguments) (mode : Value) : Option Making :=
  match argument arguments "filename" .absent with
  | .text path =>
    let log : LogFile :=
      { path := collapsed path
        mode := mode
        encoding := argument arguments "encoding" .absent
        errors := argument arguments "errors" .absent
        isDelayed := (argument arguments "delay" .absent).isTrue }
    if isSearchable mode then
      some { sink := .file kind log, opening := if log.isDelayed then none else some log }
    else none
  | _ => none

/-- A handler of a file that is moved away when it is too large; such a file is always added to. -/
def ofRotatingFile? (arguments : Arguments) (mode : Value) : Option Making :=
  let maxBytes := argument arguments "maxBytes" (.int 0)
  let kind : FileKind := .rotating maxBytes (argument arguments "backupCount" (.int 0))
  match maxBytes.worth? with
  | none => none
  | some limit =>
    ofFile? kind arguments (if (Worth.ofInt 0).less limit then .text ['a'] else mode)

/-- The moment of the day or week at which a file is moved away, rather than a span of time. -/
def isMoment (when : Text) : Bool :=
  when == Text.of "MIDNIGHT" || when.head? == some 'W'

/-- A word for when a file is moved away. -/
def isTiming (when : Text) : Bool :=
  ["S", "M", "H", "D", "MIDNIGHT", "W0", "W1", "W2", "W3", "W4", "W5", "W6"].any fun word =>
    Text.of word == when

/-- The arguments of a handler that moves its file away from time to time are sound. -/
def isTimely (arguments : Arguments) : Bool :=
  match argument arguments "when" (.text ['h']) with
  | .text when =>
    let capital := when.map Char.toUpper
    isTiming capital && (argument arguments "interval" (.int 1)).worth?.isSome &&
      !(isMoment capital && isGiven (argument arguments "atTime" .absent))
  | _ => false

/-- A value is a pair, or no sequence that should be one. -/
def isPairOrWhole : Value → Bool
  | .list items | .tuple items => items.length == 2
  | _ => true

/-- A pair of a host that is this machine and a port. -/
def isLocalAddress : Value → Bool
  | .list [host, port] | .tuple [host, port] =>
    let isPort := match port with
      | .int _ | .bool _ | .absent => true
      | _ => false
    let isHost := match host with
      | .absent => true
      | .text name =>
        ["", "localhost", "127.0.0.1", "0.0.0.0"].any fun known => Text.of known == name
      | _ => false
    isHost && isPort
  | _ => false

/-- The arguments of a handler that sends events away are sound. -/
def isSendable (handlerClass : HandlerClass) (arguments : Arguments) : Bool :=
  let given := argument arguments
  match handlerClass with
  | .syslog =>
    let isDatagram := match given "socktype" (.int 2) with
      | .absent | .int 2 => true
      | _ => false
    match given "address" (.tuple [.text (Text.of "localhost"), .int 514]) with
    | .text _ => true
    | address => isDatagram && isLocalAddress address
  | .mail => isPairOrWhole (given "mailhost" .absent) && isPairOrWhole (given "credentials" .absent)
  | .web =>
    let isMethod := match given "method" (.text (Text.of "GET")) with
      | .text method =>
        let capital := method.map Char.toUpper
        capital == Text.of "GET" || capital == Text.of "POST"
      | _ => false
    isMethod && ((given "secure" (.bool false)).isTrue || !isGiven (given "context" .absent))
  | _ => true

/-- What the arguments make of a class, if they are sound. -/
def ofArguments? (handlerClass : HandlerClass) (arguments : Arguments) (recipient : Recipient) :
    Option Making :=
  let mode := argument arguments "mode" (.text ['a'])
  if !handlerClass.takes arguments then none
  else
    match handlerClass with
    | .abstract => some { sink := .undecided }
    | .stream => some { sink := .stream }
    | .null => some { sink := .nowhere }
    | .file => ofFile? .plain arguments mode
    | .watched => ofFile? .watched arguments mode
    | .undecided => ofFile? .undecided arguments mode
    | .rotating => ofRotatingFile? arguments mode
    | .timed =>
      (ofFile? (.timed (argument arguments "backupCount" (.int 0))) arguments (.text ['a'])).map
        fun making => { making with isSound := isTimely arguments }
    | .buffering => some { sink := .buffer (argument arguments "capacity" .absent) }
    | .memory =>
      let flushLevel := argument arguments "flushLevel" (.int 40)
      some { sink := .memory (argument arguments "capacity" .absent) flushLevel recipient }
    | other =>
      if isSendable other arguments then some { sink := .remote other.word } else none

end Making
end Logging
end PackageRepos
