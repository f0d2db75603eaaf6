import PackageRepos.Files.Rotation
import PackageRepos.Logging.LogFile
import PackageRepos.Value.Comparison

/-!
# Handing events on

An event that is recorded passes the filters of its logger, and goes to the handlers of the logger
and of those above it. A handler leaves out what is below its level or does not pass its filters. A
line that cannot be made or written is left out; a file that cannot be opened fails, unless it is
one that is moved away from time to time.
-/

namespace PackageRepos
namespace Logging

/-- What logging works with. -/
structure State where
  tree : Files.Tree := {}
  loggers : Loggers := .initial
  /-- All handlers that were ever made, by number. -/
  handlers : List Handler := []

/-- What an action comes to, and the state that it leaves. -/
abbrev Act := Except Failure Unit × State

namespace Filter

/-- The event passes the filter. -/
def passes (filter : Filter) (event : Event) : Except Failure Bool :=
  match filter with
  | .below name =>
    .ok (name.isEmpty || name == event.logger || (name ++ ['.']).isPrefixOf event.logger)
  | .ill kind => .error (.argument (.soughtNotText kind))

/-- The event passes all of the filters. The first that it does not pass decides. -/
def passesAll (event : Event) : List Filter → Except Failure Bool
  | [] => .ok true
  | filter :: rest =>
    match filter.passes event with
    | .ok true => passesAll event rest
    | other => other

end Filter

/-- The line that a handler makes of an event, if it can be made. -/
def Handler.line? (handler : Handler) (event : Event) : Option Text :=
  (handler.layout.getD {}).line? event

/-- The count is at least the number that a value gives. The kind is that of a value which gives
none. -/
def reaches (count : Int) (value : Value) (kind : String) : Except Failure Bool :=
  match value.worth? with
  | some worth => .ok ((Worth.ofInt count).reaches worth)
  | none => .error (.argument (.notComparable ">=" "int" kind))

namespace State

/-- The handler with a number. -/
def handler (state : State) (number : Nat) : Handler :=
  state.handlers[number]?.getD { sink := .nowhere }

/-- Changes the handler with a number. -/
def change (state : State) (number : Nat) (f : Handler → Handler) : State :=
  { state with handlers := state.handlers.modify number f }

/-- Adds a handler, and tells its number. -/
def add (state : State) (handler : Handler) : Nat × State :=
  (state.handlers.length, { state with handlers := state.handlers ++ [handler] })

/-- Acts on items one after the other until an action fails. -/
def forEach {α : Type} (act : State → α → Act) (state : State) : List α → Act
  | [] => (.ok (), state)
  | item :: rest =>
    match act state item with
    | (.ok (), after) => forEach act after rest
    | failed => failed

/-! ## Files -/

/-- Closes the file of a handler. -/
def closeFile (state : State) (number : Nat) : State :=
  state.change number fun handler => { handler with stream := none, isNoted := false }

/-- Opens the file of a handler anew. -/
def openFile (state : State) (number : Nat) (log : LogFile) : Act :=
  let closed := state.closeFile number
  let (outcome, tree) := log.openIn closed.tree
  let opened := { closed with tree }
  match outcome with
  | .ok stream =>
    (.ok (), opened.change number fun handler => { handler with stream := some stream })
  | .error failure => (.error failure, opened)

/-- Opens the file of a handler, unless it is open. -/
def ensureOpen (state : State) (number : Nat) (log : LogFile) : Act :=
  if (state.handler number).stream.isSome then (.ok (), state) else state.openFile number log

/-- Writes a line to the open file of a handler. -/
def writeLine (state : State) (number : Nat) (log : LogFile) (line : Text) : State :=
  match (state.handler number).stream with
  | some stream =>
    let (moved, tree) := log.writeIn stream state.tree line
    { state with tree }.change number fun handler => { handler with stream := some moved }
  | none => state

/-- Writes an event to a file, which is opened if need be. What a handler of former settings would
make anew is left alone. -/
def writeToFile (state : State) (number : Nat) (log : LogFile) (event : Event) : Act :=
  let handler := state.handler number
  if handler.stream.isNone && log.isEmptied && handler.isRetired then (.ok (), state)
  else
    match state.ensureOpen number log with
    | (.ok (), opened) =>
      match handler.line? event with
      | some line => (.ok (), opened.writeLine number log line)
      | none => (.ok (), opened)
    | failed => failed

/-- The open file of a handler is known to be another one than that at its path. -/
def hasStrayed (state : State) (number : Nat) (log : LogFile) : Bool :=
  let handler := state.handler number
  handler.stream.any fun stream =>
    !(handler.isNoted && state.tree.leadsTo log.path stream.file)

/-- Writes an event to a file, which is opened anew where it is not known to be still at its
path. -/
def writeToWatched (state : State) (number : Nat) (log : LogFile) (event : Event) : Act :=
  if state.hasStrayed number log then
    match state.openFile number log with
    | (.ok (), opened) =>
      (opened.change number fun handler => { handler with isNoted := true }).writeToFile
        number log event
    | failed => failed
  else state.writeToFile number log event

/-- The size beyond which a file is moved away; a number that is not positive sets none. -/
def sizeLimit? (maxBytes : Value) : Option Worth := maxBytes.worth?.filter (Worth.ofInt 0).less

/-- A line makes the open file of a handler reach a size. -/
def outgrows (state : State) (number : Nat) (limit : Worth) (line : Text) : Bool :=
  (state.handler number).stream.any fun stream =>
    (Worth.ofInt (stream.sizeIn state.tree + line.length + 1)).reaches limit

/-- The handler writes at the end of its file. -/
def seekEnd (state : State) (number : Nat) : State :=
  state.change number fun handler =>
    { handler with stream := handler.stream.map (·.atEnd state.tree) }

/-- Moves files away. Open files go with their places. -/
def shift (state : State) : List Files.Shift → Act
  | [] => (.ok (), state)
  | step :: rest =>
    match step.applyTo state.tree with
    | .error fault => (.error (.file fault), state)
    | .ok tree =>
      let follow := fun (stream : Files.Stream) =>
        { stream with file := step.follow state.tree stream.file }
      let handlers := state.handlers.map fun handler =>
        { handler with stream := handler.stream.map follow }
      shift { state with tree, handlers } rest

/-- The number of former files to keep; no answer where the setting is no number to count by. -/
def countOf? (backups : Value) : Option Nat :=
  match backups with
  | .int count => some count.toNat
  | .bool flag => some (if flag then 1 else 0)
  | .float count => if (Worth.ofInt 0).less (.ofBinary64 count) then none else some 0
  | _ => none

/-- Moves a file away, and opens it anew unless that is left for later. -/
def rollOver (state : State) (number : Nat) (log : LogFile) (backups : Value) : Act :=
  let closed := state.closeFile number
  match countOf? backups with
  | none => (.error (.argument (.notComparable ">" backups.kindName "int")), closed)
  | some count =>
    let shifts := if count = 0 then [] else Files.Shift.ofRotation log.path count
    match closed.shift shifts with
    | (.ok (), moved) => if log.isDelayed then (.ok (), moved) else moved.openFile number log
    | failed => failed

/-- Writes an event to a file that is moved away when it has grown too large. Only files are moved
away, nothing else that may stand in their place. -/
def writeToRotating (state : State) (number : Nat) (log : LogFile) (maxBytes backups : Value)
    (event : Event) : Act :=
  if state.tree.isDirectory log.path then state.writeToFile number log event
  else
    match state.ensureOpen number log with
    | (.ok (), opened) =>
      match sizeLimit? maxBytes, (opened.handler number).line? event with
      | none, _ => opened.writeToFile number log event
      | some _, none => (.ok (), opened)
      | some limit, some line =>
        if opened.outgrows number limit line then
          match opened.rollOver number log backups with
          | (.ok (), rolled) => rolled.writeToFile number log event
          | failed => failed
        else (opened.seekEnd number).writeToFile number log event
    | failed => failed

/-- Does what can be done; a failure is not told. -/
def quietly (act : Act) : Act := (.ok (), act.2)

/-- Writes an event to the file of a handler. -/
def emitToFile (state : State) (number : Nat) (kind : FileKind) (log : LogFile) (event : Event) :
    Act :=
  match kind with
  | .plain => state.writeToFile number log event
  | .watched => state.writeToWatched number log event
  | .rotating maxBytes backups =>
    quietly (state.writeToRotating number log maxBytes backups event)
  | .timed _ => quietly (state.writeToFile number log event)
  | .undecided => (.ok (), state)

/-! ## Handlers -/

/-- Holds an event, and tells whether there are too many or it is severe. -/
def hold (state : State) (number : Nat) (capacity : Value) (flushLevel : Option Value)
    (event : Event) : Except Failure Bool × State :=
  let held := state.change number fun handler => { handler with held := handler.held ++ [event] }
  let isSevere := match flushLevel with
    | some level => reaches event.level.number level (settingKind level)
    | none => .ok false
  match reaches (held.handler number).held.length capacity (settingKind capacity) with
  | .ok false => (isSevere, held)
  | outcome => (outcome, held)

/-- Forgets the events that a handler holds. -/
def forget (state : State) (number : Nat) : State :=
  state.change number fun handler => { handler with held := [] }

/-- Hands the events that a handler holds on to a recipient, and forgets them. Without a recipient
they stay. -/
def release (state : State) (number : Nat) (recipient : Recipient)
    (hand : State → Nat → Event → Act) : Act :=
  let held := (state.handler number).held
  match recipient with
  | .nobody => (.ok (), state)
  | .handler recipient =>
    match forEach (fun state event => hand state recipient event) state held with
    | (.ok (), emptied) => (.ok (), emptied.forget number)
    | failed => failed
  | .other kind =>
    (if held.isEmpty then .ok () else .error (.argument (.lacks kind "handle")), state)

/-- Hands an event to a handler, whatever its level. A handler may hand events on to one that was
made before it; every handler takes a unit of fuel. -/
def handleWithin (state : State) (number : Nat) (event : Event) : Nat → Act
  | 0 => (.ok (), state)
  | fuel + 1 =>
    let handler := state.handler number
    match handler.sink with
    | .nowhere => (.ok (), state)
    | sink =>
      match Filter.passesAll event handler.filters with
      | .error failure => (.error failure, state)
      | .ok false => (.ok (), state)
      | .ok true =>
        match sink with
        | .stream | .nowhere | .remote _ => (.ok (), state)
        | .undecided => (.error .abstractHandler, state)
        | .file kind log => state.emitToFile number kind log event
        | .buffer capacity =>
          match state.hold number capacity none event with
          | (.ok true, held) => (.ok (), held.forget number)
          | (outcome, held) => (outcome.map fun _ => (), held)
        | .memory capacity flushLevel recipient =>
          match state.hold number capacity (some flushLevel) event with
          | (.ok true, held) =>
            held.release number recipient fun state recipient event =>
              state.handleWithin recipient event fuel
          | (outcome, held) => (outcome.map fun _ => (), held)

/-- Hands an event to a handler, whatever its level. -/
def handle (state : State) (number : Nat) (event : Event) : Act :=
  state.handleWithin number event (number + 1)

/-- Hands an event to a handler, unless it is below its level. -/
def offer (event : Event) (state : State) (number : Nat) : Act :=
  let level := (state.handler number).level
  match reaches event.level.number level level.kindName with
  | .ok true => state.handle number event
  | outcome => (outcome.map fun _ => (), state)

/-- Hands an event that is recorded to the handlers that it goes to. -/
def deliver (state : State) (event : Event) : Act :=
  match Filter.passesAll event (state.loggers.get event.logger).filters with
  | .error failure => (.error failure, state)
  | .ok false => (.ok (), state)
  | .ok true =>
    forEach (offer event) state (Loggers.handlersFor (state.loggers.line event.logger))

/-! ## Retirement -/

/-- Hands on the events that a handler holds. -/
def flush (state : State) (number : Nat) : Act :=
  match (state.handler number).sink with
  | .memory _ _ recipient => state.release number recipient handle
  | _ => (.ok (), state)

/-- The handler without what it had to do: its file is closed, and what it holds is forgotten. One
that hands events on has no recipient any more, and keeps what it still holds. -/
def retired (handler : Handler) : Handler :=
  let held := match handler.sink with
    | .memory .. => handler.held
    | _ => []
  { handler with
    sink := handler.sink.released, stream := none, isNoted := false, isRetired := true, held }

/-- The failure keeps no handler from retiring. -/
def isPassedOver : Failure → Bool
  | .file _ | .openMode _ => true
  | _ => false

/-- Retires a handler, unless that was done before. One that could not hand on what it holds is
left as it is. -/
def retire (state : State) (number : Nat) : Act :=
  if (state.handler number).isRetired then (.ok (), state)
  else
    match state.flush number with
    | (.error failure, flushed) =>
      if isPassedOver failure then
        (.ok (), flushed.change number fun handler => { handler with isRetired := true })
      else (.error failure, flushed)
    | (.ok (), flushed) => (.ok (), flushed.change number retired)

/-- Retires all handlers, the last one first. They lose their names. -/
def retireAll (state : State) : Act :=
  let nameless := { state with
    handlers := state.handlers.map fun handler => { handler with name := none } }
  forEach retire nameless (List.range state.handlers.length).reverse

/-- The handler that a name stands for. -/
def named? (state : State) (name : Text) : Option Nat :=
  state.handlers.findIdx? fun handler => handler.name == some name

end State
end Logging
end PackageRepos
