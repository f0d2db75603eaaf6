import PackageRepos.ArgumentFault
import PackageRepos.Numeral
import PackageRepos.OrderedMap
import PackageRepos.Text.Blank
import PackageRepos.Text.Digit
import PackageRepos.Text.Word
import PackageRepos.Value.Place

/-!
# References in settings

A setting may be a reference: to another setting, by a path of members and items, or to something
that is known by a dotted name. References are followed when a setting is used. What a reference
leads to is known with the place where it stands.
-/

namespace PackageRepos
namespace Logging

/-- Why a reference cannot be followed. -/
inductive ReferenceFault where
  | malformed (path : Text)
  | malformedAt (path rest : Text)
  /-- The dotted name is not known, because there is no such module. -/
  | unresolved (name missing : Text) (parent : Option Text)
  | nameless
  | noKey (key : Value)
  | noIndex (kind : String)
  | notIndexed (fault : ArgumentFault)
  /-- The references lead back to themselves. -/
  | endless
deriving Repr

namespace ReferenceFault

/-- The wording of a fault. -/
def message : ReferenceFault → Text
  | malformed path => Text.of "Unable to convert " ++ path.quoted
  | malformedAt path rest =>
    Text.of "Unable to convert " ++ path.quoted ++ Text.of " at " ++ rest.quoted
  | unresolved name missing parent =>
    let reason := match parent with
      | some parent => Text.of "; " ++ parent.quoted ++ Text.of " is not a package"
      | none => []
    Text.of "Cannot resolve " ++ name.quoted ++ Text.of ": No module named " ++ missing.quoted ++
      reason
  | nameless => Text.of "Empty module name"
  | noKey key => key.display
  | noIndex kind => Text.of s!"{kind} index out of range"
  | notIndexed fault => fault.message
  | endless => Text.of "maximum recursion depth exceeded while calling a Python object"

/-- The reference itself is wrong, rather than what it leads to. -/
def isMistake : ReferenceFault → Bool
  | noKey _ | noIndex _ | endless => false
  | _ => true

end ReferenceFault

/-- A value among settings, and the place where it stands. -/
structure Setting where
  value : Value
  place : Place
deriving Repr

namespace Reference

/-- A setting that is a reference. -/
inductive Target where
  | setting (path : Text)
  | known (name : Text)
deriving DecidableEq, Repr

/-- What follows the mark of a reference. A newline may stand only at the very end. -/
def body? (mark : String) (text : Text) : Option Text :=
  if (Text.of mark).isPrefixOf text then
    let body := text.drop mark.length
    let trimmed := if body.getLast? = some '\n' then body.dropLast else body
    if trimmed.contains '\n' then none else some trimmed
  else none

/-- The reference that a text is, if it is one. -/
def target? (text : Text) : Option Target :=
  ((body? "cfg://" text).map .setting).or ((body? "ext://" text).map .known)

/-- The numbers that have dotted names. -/
def knownNumbers : List (String × Int) :=
  [("logging.CRITICAL", 50), ("logging.FATAL", 50), ("logging.ERROR", 40),
    ("logging.WARNING", 30), ("logging.WARN", 30), ("logging.INFO", 20), ("logging.DEBUG", 10),
    ("logging.NOTSET", 0), ("logging.handlers.DEFAULT_TCP_LOGGING_PORT", 9020),
    ("logging.handlers.DEFAULT_UDP_LOGGING_PORT", 9021),
    ("logging.handlers.SYSLOG_UDP_PORT", 514), ("logging.handlers.SysLogHandler.LOG_USER", 1),
    ("logging.handlers.SysLogHandler.LOG_DAEMON", 3),
    ("logging.handlers.SysLogHandler.LOG_LOCAL0", 16), ("socket.SOCK_STREAM", 1),
    ("socket.SOCK_DGRAM", 2), ("sys.maxsize", 9223372036854775807)]

/-- The texts that have dotted names. -/
def knownTexts : List (String × String) :=
  [("logging.BASIC_FORMAT", "%(levelname)s:%(name)s:%(message)s"),
    ("logging.Formatter.default_msec_format", "%s,%03d"),
    ("logging.Formatter.default_time_format", "%Y-%m-%d %H:%M:%S"),
    ("logging.StreamHandler.terminator", "\n"), ("os.curdir", "."), ("os.linesep", "\n"),
    ("os.name", "posix"), ("os.pardir", ".."), ("os.sep", "/"),
    ("repoconf.config.manager.CONFIG_DIR_ENV_VAR", "REPOCONF_CONFIG_DIR"),
    ("repoconf.core.keyfile.COMMENT_PREFIX", "#"), ("repoconf.core.keyfile.LIST_SEPARATOR", ";"),
    ("repoconf.core.repoconf.REPO_FILE_SUFFIX", ".repo"),
    ("repoconf.logging_config.DEBUG_MODULES_ENV_VAR", "REPOCONF_DEBUG_MODULES"),
    ("repoconf.logging_config.LOG_DIR_ENV_VAR", "REPOCONF_LOG_DIR"),
    ("repoconf.logging_config._FORMAT",
      "%(asctime)s - %(name)s - %(levelname)s - %(message)s"),
    ("sys.byteorder", "little"), ("sys.platform", "linux")]

/-- The files that have dotted names. -/
def knownFiles : List String :=
  ["sys.stdout", "sys.stderr", "sys.stdin", "sys.__stdout__", "sys.__stderr__"]

/-- The classes that have dotted names. -/
def knownClasses : List String :=
  ["logging.FileHandler", "logging.Filter", "logging.Formatter", "logging.Handler",
    "logging.LogRecord", "logging.Logger", "logging.NullHandler", "logging.StreamHandler",
    "logging.handlers.BaseRotatingHandler", "logging.handlers.BufferingHandler",
    "logging.handlers.DatagramHandler", "logging.handlers.HTTPHandler",
    "logging.handlers.MemoryHandler", "logging.handlers.QueueHandler",
    "logging.handlers.RotatingFileHandler", "logging.handlers.SMTPHandler",
    "logging.handlers.SocketHandler", "logging.handlers.SysLogHandler",
    "logging.handlers.TimedRotatingFileHandler", "logging.handlers.WatchedFileHandler",
    "queue.LifoQueue", "queue.PriorityQueue", "queue.Queue", "queue.SimpleQueue"]

/-- The modules that known names begin with, and whether they have modules in them. -/
def knownModules : List (String × Bool) :=
  [("builtins", false), ("collections", true), ("collections.abc", false), ("configparser", false),
    ("copy", false), ("datetime", false), ("enum", false), ("functools", false), ("io", false),
    ("json", true), ("logging", true), ("logging.config", false), ("logging.handlers", false),
    ("math", false), ("os", false), ("os.path", false), ("pathlib", false), ("queue", false),
    ("re", true), ("repoconf", true), ("repoconf.config", true),
    ("repoconf.config.manager", false), ("repoconf.core", true),
    ("repoconf.core.exceptions", false), ("repoconf.core.keyfile", false),
    ("repoconf.core.metalink", false), ("repoconf.core.models", false),
    ("repoconf.core.multiline", false), ("repoconf.core.options", false),
    ("repoconf.core.repoconf", false), ("repoconf.core.units", false),
    ("repoconf.logging_config", false), ("socket", false), ("string", false), ("sys", false),
    ("tempfile", false), ("threading", false), ("time", false), ("types", false),
    ("typing", false), ("yaml", true)]

/-- Everything that has a dotted name. -/
def known : List (String × Value) :=
  knownNumbers.map (fun (name, number) => (name, .int number)) ++
    knownTexts.map (fun (name, text) => (name, .text (Text.of text))) ++
    knownFiles.map (fun name => (name, .thing "TextIOWrapper")) ++
    knownClasses.map (fun name => (name, .thing "type")) ++
    knownModules.map (fun (name, _) => (name, .thing "module"))

/-- The fault of a dotted name that begins with a module, the first parts of which were found to be
one. -/
def unresolvedAfter (name : Text) (parent : Option (Text × Bool)) : List Text → ReferenceFault
  | [] => .unresolved name name none
  | part :: rest =>
    let path := match parent with
      | some (module, _) => module ++ '.' :: part
      | none => part
    match knownModules.find? fun known => Text.of known.1 == path with
    | some known =>
      if rest.isEmpty then .unresolved name path none
      else unresolvedAfter name (some (path, known.2)) rest
    | none =>
      .unresolved name path
        (parent.bind fun (module, hasModules) => if hasModules then none else some module)

/-- What a dotted name stands for. -/
def resolve (name : Text) : Except ReferenceFault Value :=
  match known.find? fun entry => Text.of entry.1 == name with
  | some entry => .ok entry.2
  | none =>
    match name.splitOn '.' with
    | [] :: _ => .error .nameless
    | parts => .error (unresolvedAfter name none parts)

/-- A step of a path. -/
inductive Step where
  | member (name : Text)
  | item (name : Text)
deriving DecidableEq, Repr

/-- Takes a word with the blanks around it. -/
def readWord (text : Text) : Option (Text × Text) :=
  match (Text.stripLeft text).span Text.isWordChar with
  | (first :: more, rest) => some (first :: more, Text.stripLeft rest)
  | _ => none

/-- Takes a step of a path. -/
def readStep : Text → Option (Step × Text)
  | '.' :: rest => (readWord rest).map fun (name, after) => (.member name, after)
  | '[' :: rest =>
    match readWord rest with
    | some (name, ']' :: after) => some (.item name, Text.stripLeft after)
    | _ => none
  | _ => none

/-- The number that decimal digits of any script denote. -/
def indexOf? (name : Text) : Option Nat :=
  if name.all Text.isDigitChar then some (Text.numberOf name) else none

/-- What a value has under a key. -/
def memberOf (value : Value) (key : Text) : Except ReferenceFault Value :=
  match value with
  | .mapping entries =>
    match entries.lookup key with
    | some found => .ok found
    | none => .error (.noKey (.text key))
  | .list _ | .tuple _ => .error (.notIndexed .listIndexedByText)
  | .text _ => .error (.notIndexed .textIndexedByText)
  | other => .error (.notIndexed (.notIndexed other.kindName))

/-- What a value has at a number. -/
def itemOf (value : Value) (index : Nat) : Except ReferenceFault Value :=
  match value with
  | .mapping _ => .error (.noKey (.int index))
  | .list items | .tuple items =>
    match items[index]? with
    | some found => .ok found
    | none => .error (.noIndex "list")
  | .text text =>
    match text[index]? with
    | some char => .ok (.text [char])
    | none => .error (.noIndex "string")
  | other => .error (.notIndexed (.notIndexed other.kindName))

/-- What a setting has under a name. -/
def memberAt (setting : Setting) (name : Text) : Except ReferenceFault Setting :=
  (memberOf setting.value name).map fun value =>
    { value, place := setting.place ++ [.name name] }

/-- What a step leads to. -/
def follow (setting : Setting) : Step → Except ReferenceFault Setting
  | .member name => memberAt setting name
  | .item name =>
    match indexOf? name with
    | some index =>
      (itemOf setting.value index).map fun value =>
        { value, place := setting.place ++ [.number index] }
    | none => memberAt setting name

mutual

/-- What a setting stands for, among others. Every reference and every step takes a unit of
fuel. -/
def settleWithin (settings : OrderedMap Text Value) : Nat → Setting → Except ReferenceFault Setting
  | 0, setting =>
    match setting.value with
    | .text text => if (target? text).isSome then .error .endless else .ok setting
    | _ => .ok setting
  | fuel + 1, setting =>
    match setting.value with
    | .text text =>
      match target? text with
      | none => .ok setting
      | some (.known name) => (resolve name).map fun value => { setting with value }
      | some (.setting path) =>
        match readWord path with
        | none => .error (.malformed path)
        | some (name, rest) =>
          match memberAt { value := .mapping settings.toList, place := [] } name with
          | .error fault => .error fault
          | .ok found =>
            match settleWithin settings fuel found with
            | .error fault => .error fault
            | .ok settled => walkWithin settings path settled fuel rest
    | _ => .ok setting

/-- What the rest of a path leads to from a setting. -/
def walkWithin (settings : OrderedMap Text Value) (path : Text) (setting : Setting) :
    Nat → Text → Except ReferenceFault Setting
  | _, [] => .ok setting
  | 0, _ => .error .endless
  | fuel + 1, rest =>
    match readStep rest with
    | none => .error (.malformedAt path rest)
    | some (step, after) =>
      match follow setting step with
      | .error fault => .error fault
      | .ok found =>
        match settleWithin settings fuel found with
        | .error fault => .error fault
        | .ok settled => walkWithin settings path settled fuel after

end

/-- The most references and steps that are followed in one go. -/
def reach : Nat := 200

/-- What a setting stands for, among others. -/
def settle (settings : OrderedMap Text Value) (setting : Setting) :
    Except ReferenceFault Setting :=
  settleWithin settings reach setting

end Reference
end Logging
end PackageRepos
