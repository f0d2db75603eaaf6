import PackageRepos.Logging.Delivery

/-!
# What handing events on leaves alone

Handing an event on opens and writes files, moves them away, and holds events. It changes neither
the loggers nor how a handler was set up, and a plain file that is open stays open.
-/

namespace PackageRepos
namespace Logging

namespace Handler

/-- How a handler was set up, without what its work changes. -/
def setup (handler : Handler) : Handler :=
  { handler with stream := none, isNoted := false, held := [], name := none }

/-- The handler after some work: it is set up as before, and a plain file that was open is open. -/
structure Keeps (handler after : Handler) : Prop where
  setup : after.setup = handler.setup
  isOpen : ∀ log, handler.sink = .file .plain log → handler.stream.isSome → after.stream.isSome

namespace Keeps

variable {handler after last : Handler}

theorem refl (handler : Handler) : handler.Keeps handler := ⟨rfl, fun _ _ => id⟩

theorem sink (keeps : handler.Keeps after) : after.sink = handler.sink :=
  (congrArg Handler.sink keeps.setup :)

theorem level (keeps : handler.Keeps after) : after.level = handler.level :=
  (congrArg Handler.level keeps.setup :)

theorem filters (keeps : handler.Keeps after) : after.filters = handler.filters :=
  (congrArg Handler.filters keeps.setup :)

theorem isRetired (keeps : handler.Keeps after) : after.isRetired = handler.isRetired :=
  (congrArg Handler.isRetired keeps.setup :)

theorem trans (first : handler.Keeps after) (second : after.Keeps last) : handler.Keeps last :=
  ⟨second.setup.trans first.setup, fun log plain wasOpen =>
    second.isOpen log (first.sink.trans plain) (first.isOpen log plain wasOpen)⟩

end Keeps
end Handler

namespace State

/-- The state after some work of handlers. -/
structure Keeps (state after : State) : Prop where
  loggers : after.loggers = state.loggers
  size : after.handlers.length = state.handlers.length
  handlers : ∀ number, (state.handler number).Keeps (after.handler number)

variable {state after last : State} {number : Nat} {log : LogFile} {event : Event}

theorem handler_change (state : State) (number other : Nat) (f : Handler → Handler) :
    (state.change number f).handler other =
      if other = number ∧ number < state.handlers.length then f (state.handler number)
      else state.handler other := by
  unfold handler change
  rw [List.getElem?_modify]
  by_cases same : number = other
  · subst same
    by_cases inRange : number < state.handlers.length <;> simp [inRange]
  · simp [same, Ne.symm same]

/-- What each action keeps, actions keep one after the other. -/
theorem forEach_relates {α : Type} {relation : State → State → Prop}
    (refl : ∀ state, relation state state)
    (trans : ∀ {first second third}, relation first second → relation second third →
      relation first third)
    {act : State → α → Act} (each : ∀ (state : State) item, relation state (act state item).2)
    (state : State) (items : List α) : relation state (forEach act state items).2 := by
  induction items generalizing state with
  | nil => exact refl state
  | cons item rest ih =>
    have first := each state item
    rw [forEach]
    cases acted : act state item with
    | mk outcome after =>
      rw [acted] at first
      cases outcome with
      | error failure => exact first
      | ok _ => exact trans first (ih after)

namespace Keeps

theorem refl (state : State) : state.Keeps state := ⟨rfl, rfl, fun _ => .refl _⟩

theorem trans (first : state.Keeps after) (second : after.Keeps last) : state.Keeps last :=
  ⟨second.loggers.trans first.loggers, second.size.trans first.size, fun number =>
    (first.handlers number).trans (second.handlers number)⟩

/-- Files change without the handlers. -/
theorem withTree (keeps : state.Keeps after) (tree : Files.Tree) :
    state.Keeps { after with tree } :=
  ⟨keeps.loggers, keeps.size, keeps.handlers⟩

theorem change {f : Handler → Handler}
    (keeps : (state.handler number).Keeps (f (state.handler number))) :
    state.Keeps (state.change number f) := by
  refine ⟨rfl, List.length_modify .., fun other => ?_⟩
  rw [handler_change]
  split
  · rename_i found
    rw [found.1]
    exact keeps
  · exact .refl _

/-- All handlers change at once. -/
theorem map {f : Handler → Handler} (keeps : ∀ handler : Handler, handler.Keeps (f handler)) :
    state.Keeps { state with handlers := state.handlers.map f } := by
  refine ⟨rfl, List.length_map f, fun number => ?_⟩
  unfold handler
  rw [List.getElem?_map]
  cases state.handlers[number]? with
  | none => exact .refl _
  | some handler => exact keeps handler

/-- An action that comes off is followed by another one. -/
theorem andThen {act : Act} {next : State → Act} (first : state.Keeps act.2)
    (second : ∀ after, state.Keeps after → after.Keeps (next after).2) :
    state.Keeps
      (match act with
        | (.ok (), after) => next after
        | failed => failed).2 := by
  obtain ⟨outcome, after⟩ := act
  cases outcome with
  | error failure => exact first
  | ok _ => exact first.trans (second after first)

theorem forEach {α : Type} {act : State → α → Act}
    (each : ∀ (state : State) item, state.Keeps (act state item).2) (state : State)
    (items : List α) :
    state.Keeps (forEach act state items).2 :=
  forEach_relates refl trans each state items

end Keeps

/-! ## Files -/

section Files

/-- The handler writes to no plain file that is open. -/
def IsLoose (state : State) (number : Nat) : Prop :=
  ∀ log, (state.handler number).sink = .file .plain log → (state.handler number).stream = none

theorem keeps_closeFile (loose : state.IsLoose number) : state.Keeps (state.closeFile number) :=
  .change ⟨rfl, fun log plain wasOpen => by simp [loose log plain] at wasOpen⟩

theorem keeps_openFile (loose : state.IsLoose number) (log : LogFile) :
    state.Keeps (state.openFile number log).2 := by
  have closed := (keeps_closeFile loose).withTree (log.openIn (state.closeFile number).tree).2
  simp only [openFile]
  cases (log.openIn (state.closeFile number).tree).1 with
  | error failure => exact closed
  | ok stream => exact closed.trans (.change ⟨rfl, fun _ _ _ => rfl⟩)

theorem keeps_ensureOpen (state : State) (number : Nat) (log : LogFile) :
    state.Keeps (state.ensureOpen number log).2 := by
  unfold ensureOpen
  split
  · exact .refl state
  · rename_i isClosed
    exact keeps_openFile (fun _ _ => by simpa using isClosed) log

theorem keeps_writeLine (state : State) (number : Nat) (log : LogFile) (line : Text) :
    state.Keeps (state.writeLine number log line) := by
  unfold writeLine
  split
  · exact ((Keeps.refl state).withTree _).trans (.change ⟨rfl, fun _ _ _ => rfl⟩)
  · exact .refl state

theorem keeps_writeToFile (state : State) (number : Nat) (log : LogFile) (event : Event) :
    state.Keeps (state.writeToFile number log event).2 := by
  unfold writeToFile
  dsimp only
  split
  · exact .refl state
  · refine (keeps_ensureOpen state number log).andThen fun opened _ => ?_
    cases (state.handler number).line? event with
    | none => exact .refl opened
    | some line => exact keeps_writeLine opened number log line

theorem keeps_writeToWatched (loose : state.IsLoose number) (log : LogFile) (event : Event) :
    state.Keeps (state.writeToWatched number log event).2 := by
  unfold writeToWatched
  split
  · refine (keeps_openFile loose log).andThen fun opened _ => ?_
    exact (Keeps.change ⟨rfl, fun _ _ => id⟩).trans (keeps_writeToFile ..)
  · exact keeps_writeToFile ..

theorem keeps_seekEnd (state : State) (number : Nat) : state.Keeps (state.seekEnd number) :=
  .change ⟨rfl, fun _ _ wasOpen => by simpa using wasOpen⟩

theorem keeps_shift (state : State) (steps : List Files.Shift) :
    state.Keeps (state.shift steps).2 := by
  induction steps generalizing state with
  | nil => exact .refl state
  | cons step rest ih =>
    rw [shift]
    cases step.applyTo state.tree with
    | error fault => exact .refl state
    | ok tree =>
      have follows : ∀ handler : Handler, handler.Keeps
          { handler with
            stream := handler.stream.map fun stream =>
              { stream with file := step.follow state.tree stream.file } } :=
        fun handler => ⟨rfl, fun _ _ wasOpen => by simpa using wasOpen⟩
      exact ((Keeps.map follows).withTree tree).trans (ih _)

/-- The handler writes to no plain file. -/
def IsElaborate (state : State) (number : Nat) : Prop :=
  ∀ log, (state.handler number).sink ≠ .file .plain log

theorem IsElaborate.isLoose (elaborate : state.IsElaborate number) : state.IsLoose number :=
  fun log plain => absurd plain (elaborate log)

theorem IsElaborate.keep (elaborate : state.IsElaborate number) (keeps : state.Keeps after) :
    after.IsElaborate number :=
  fun log plain => elaborate log ((keeps.handlers number).sink.symm.trans plain)

theorem keeps_rollOver (elaborate : state.IsElaborate number) (log : LogFile) (backups : Value) :
    state.Keeps (state.rollOver number log backups).2 := by
  have closed := keeps_closeFile elaborate.isLoose
  unfold rollOver
  dsimp only
  cases countOf? backups with
  | none => exact closed
  | some count =>
    refine (closed.trans (keeps_shift ..)).andThen fun moved moves => ?_
    split
    · exact .refl moved
    · exact keeps_openFile (elaborate.keep moves).isLoose log

theorem keeps_writeToRotating (elaborate : state.IsElaborate number) (log : LogFile)
    (maxBytes backups : Value) (event : Event) :
    state.Keeps (state.writeToRotating number log maxBytes backups event).2 := by
  unfold writeToRotating
  split
  · exact keeps_writeToFile ..
  · refine (keeps_ensureOpen state number log).andThen fun opened opens => ?_
    split
    · exact keeps_writeToFile ..
    · exact .refl opened
    · split
      · exact (keeps_rollOver (elaborate.keep opens) log backups).andThen fun rolled _ =>
          keeps_writeToFile ..
      · exact (keeps_seekEnd ..).trans (keeps_writeToFile ..)

theorem keeps_emitToFile {kind : FileKind} (sink_eq : (state.handler number).sink = .file kind log)
    (event : Event) : state.Keeps (state.emitToFile number kind log event).2 := by
  cases kind with
  | plain => exact keeps_writeToFile ..
  | watched =>
    have elaborate : state.IsElaborate number := fun other => by simp [sink_eq]
    exact keeps_writeToWatched elaborate.isLoose log event
  | rotating maxBytes backups =>
    have elaborate : state.IsElaborate number := fun other => by simp [sink_eq]
    exact keeps_writeToRotating elaborate log maxBytes backups event
  | timed backups => exact keeps_writeToFile ..
  | undecided => exact .refl state

end Files

/-! ## Handlers -/

theorem keeps_hold (state : State) (number : Nat) (capacity : Value) (flushLevel : Option Value)
    (event : Event) : state.Keeps (state.hold number capacity flushLevel event).2 := by
  have holds : state.Keeps
      (state.change number fun handler => { handler with held := handler.held ++ [event] }) :=
    .change ⟨rfl, fun _ _ => id⟩
  unfold hold
  dsimp only
  split <;> exact holds

theorem keeps_forget (state : State) (number : Nat) : state.Keeps (state.forget number) :=
  .change ⟨rfl, fun _ _ => id⟩

theorem keeps_release {hand : State → Nat → Event → Act}
    (hands : ∀ (state : State) number event, state.Keeps (hand state number event).2)
    (state : State) (number : Nat) (recipient : Recipient) :
    state.Keeps (state.release number recipient hand).2 := by
  unfold release
  dsimp only
  cases recipient with
  | nobody => exact .refl state
  | other kind => exact .refl state
  | handler recipient =>
    exact (Keeps.forEach (fun state event => hands state recipient event) state _).andThen
      fun emptied _ => keeps_forget emptied number

theorem keeps_handleWithin (state : State) (number : Nat) (event : Event) (fuel : Nat) :
    state.Keeps (state.handleWithin number event fuel).2 := by
  induction fuel generalizing state number event with
  | zero => exact .refl state
  | succ fuel ih =>
    rw [handleWithin]
    split
    · exact .refl state
    · split
      · exact .refl state
      · exact .refl state
      · split
        · exact .refl state
        · exact .refl state
        · exact .refl state
        · exact .refl state
        · exact keeps_emitToFile ‹_› event
        · rename_i capacity _
          have holds := keeps_hold state number capacity none event
          split <;> rename_i done <;> rw [done] at holds
          · exact holds.trans (keeps_forget ..)
          · exact holds
        · rename_i capacity flushLevel recipient _
          have holds := keeps_hold state number capacity (some flushLevel) event
          split <;> rename_i done <;> rw [done] at holds
          · exact holds.trans (keeps_release (fun state => ih state) ..)
          · exact holds

theorem keeps_handle (state : State) (number : Nat) (event : Event) :
    state.Keeps (state.handle number event).2 :=
  keeps_handleWithin ..

theorem keeps_offer (event : Event) (state : State) (number : Nat) :
    state.Keeps (offer event state number).2 := by
  unfold offer
  dsimp only
  split
  · exact keeps_handle state number event
  · exact .refl state

theorem keeps_deliver (state : State) (event : Event) : state.Keeps (state.deliver event).2 := by
  unfold deliver
  split
  · exact .refl state
  · exact .refl state
  · exact .forEach (fun state number => keeps_offer event state number) state _

theorem keeps_flush (state : State) (number : Nat) : state.Keeps (state.flush number).2 := by
  unfold flush
  split
  · exact keeps_release keeps_handle state number _
  · exact .refl state

end State
end Logging
end PackageRepos
