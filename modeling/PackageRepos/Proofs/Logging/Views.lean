import PackageRepos.Proofs.Logging.Debugging

/-!
# What loggers look like

A logger is seen by its level, whether its events go on, and what its handlers were set up to do.
Handing events on and retiring handlers cannot be seen; switching to debugging can, and is seen as
one and the same change whenever it is made.
-/

namespace PackageRepos
namespace Logging

@[simp]
theorem Sink.released_released (sink : Sink) : sink.released.released = sink.released := by
  cases sink <;> rfl

namespace Handler

/-- What a handler was set up to do. Whom it hands events on to is left out, which newer settings
put an end to. -/
def description (handler : Handler) : Handler :=
  { handler.setup with sink := handler.sink.released, isRetired := false }

variable {handler after : Handler}

theorem description_eq_of_setup_eq (same : after.setup = handler.setup) :
    after.description = handler.description :=
  congrArg (fun setup : Handler => { setup with sink := setup.sink.released, isRetired := false })
    same

@[simp]
theorem description_retired (handler : Handler) :
    (State.retired handler).description = handler.description := by
  simp [description, State.retired, setup]

end Handler

/-- What can be seen of a logger. -/
structure LoggerView where
  level : Level
  propagate : Value
  /-- What the handlers were set up to do, in order. -/
  handlers : List Handler

namespace LoggerView

/-- What a logger looks like that was never used. -/
def fresh : LoggerView where
  level := .unset
  propagate := .bool true
  handlers := []

/-- One of the handlers lets debugging events through. -/
def showsDebug (view : LoggerView) : Bool :=
  view.handlers.any fun handler => Host.letsDebug handler.level

/-- What is seen after the logger was switched to debugging. -/
def debugged (view : LoggerView) : LoggerView :=
  { view with
    level := .debug
    handlers :=
      if view.showsDebug then view.handlers
      else view.handlers ++ [(Handler.console .debug).description] }

/-- Switching again adds nothing. -/
@[simp]
theorem debugged_debugged (view : LoggerView) : view.debugged.debugged = view.debugged := by
  have shows : view.debugged.showsDebug = true := by
    unfold showsDebug debugged
    split
    · assumption
    · rw [List.any_append, Bool.or_eq_true]
      exact .inr rfl
  rw [debugged, if_pos shows]
  rfl

end LoggerView

namespace State

/-- What is seen of a logger whose handlers have their numbers in the state. -/
def viewOf (state : State) (logger : Logger) : LoggerView where
  level := logger.level
  propagate := logger.propagate
  handlers := logger.handlers.map fun number => (state.handler number).description

/-- What is seen of the logger with a name. -/
def view (state : State) (name : Text) : LoggerView := state.viewOf (state.loggers.get name)

/-- The handlers of all loggers are there. -/
def IsComplete (state : State) : Prop :=
  ∀ name, ∀ number ∈ (state.loggers.get name).handlers, number < state.handlers.length

variable {state after last : State} {name other : Text}

theorem IsSteady.isComplete (steady : state.IsSteady) : state.IsComplete :=
  fun name number member => (steady.serves name number member).isThere

theorem view_eq_of_areSame (state : State) (same : Loggers.AreSame name other) :
    state.view name = state.view other :=
  congrArg state.viewOf (Loggers.get_eq_of_areSame _ same)

/-- Handlers that are added are not seen at loggers that were there. -/
theorem viewOf_eq_of_former {logger : Logger}
    (former : ∀ number ∈ logger.handlers,
      (after.handler number).description = (state.handler number).description) :
    after.viewOf logger = state.viewOf logger := by
  unfold viewOf
  rw [List.map_congr_left former]

theorem viewOf_add {logger : Logger} (handler : Handler)
    (there : ∀ number ∈ logger.handlers, number < state.handlers.length) :
    (state.add handler).2.viewOf logger = state.viewOf logger :=
  viewOf_eq_of_former fun number member => by rw [handler_add_of_lt handler (there number member)]

theorem viewOf_add_append {logger : Logger} (handler : Handler)
    (there : ∀ number ∈ logger.handlers, number < state.handlers.length) (level : Level) :
    (state.add handler).2.viewOf
        { logger with level, handlers := logger.handlers ++ [state.handlers.length] } =
      { state.viewOf logger with
        level, handlers := (state.viewOf logger).handlers ++ [handler.description] } := by
  have own := congrArg LoggerView.handlers (viewOf_add handler there)
  simp only [viewOf] at own
  simp only [viewOf, List.map_append, List.map_singleton, handler_add_self, own]

/-! ## What cannot be seen -/

/-- The state after some change that cannot be seen. -/
structure Resembles (state after : State) : Prop where
  loggers : after.loggers = state.loggers
  size : after.handlers.length = state.handlers.length
  descriptions : ∀ number, (after.handler number).description = (state.handler number).description

theorem Keeps.resembles (keeps : state.Keeps after) : state.Resembles after :=
  ⟨keeps.loggers, keeps.size, fun number =>
    Handler.description_eq_of_setup_eq (keeps.handlers number).setup⟩

namespace Resembles

theorem refl (state : State) : state.Resembles state := ⟨rfl, rfl, fun _ => rfl⟩

theorem trans (first : state.Resembles after) (second : after.Resembles last) :
    state.Resembles last :=
  ⟨second.loggers.trans first.loggers, second.size.trans first.size, fun number =>
    (second.descriptions number).trans (first.descriptions number)⟩

theorem change {f : Handler → Handler}
    (same : ∀ handler : Handler, (f handler).description = handler.description)
    (state : State) (number : Nat) : state.Resembles (state.change number f) := by
  refine ⟨rfl, List.length_modify .., fun other => ?_⟩
  rw [handler_change]
  split
  · rename_i found
    rw [same, found.1]
  · rfl

theorem viewOf (resembles : state.Resembles after) (logger : Logger) :
    after.viewOf logger = state.viewOf logger :=
  viewOf_eq_of_former fun number _ => resembles.descriptions number

theorem view (resembles : state.Resembles after) (name : Text) :
    after.view name = state.view name := by
  rw [State.view, resembles.loggers, resembles.viewOf]
  rfl

theorem isComplete (resembles : state.Resembles after) (complete : state.IsComplete) :
    after.IsComplete := by
  intro name number member
  rw [resembles.loggers] at member
  exact resembles.size ▸ complete name number member

end Resembles

theorem resembles_retire (state : State) (number : Nat) :
    state.Resembles (state.retire number).2 := by
  have keeps := keeps_flush state number
  unfold retire
  split
  · exact .refl state
  · split
    · rename_i flushed done
      rw [done] at keeps
      split
      · have marked : ∀ handler : Handler,
            { handler with isRetired := true }.description = handler.description :=
          fun _ => rfl
        exact keeps.resembles.trans (.change marked ..)
      · exact keeps.resembles
    · rename_i flushed done
      rw [done] at keeps
      exact keeps.resembles.trans (.change Handler.description_retired ..)

/-- It cannot be seen whether handlers have retired. -/
theorem resembles_retireAll (state : State) : state.Resembles state.retireAll.2 := by
  have keeps : state.Keeps { state with
      handlers := state.handlers.map fun handler => { handler with name := none } } :=
    .map fun _ => ⟨rfl, fun _ _ => id⟩
  exact keeps.resembles.trans (forEach_relates .refl .trans resembles_retire _ _)

end State

namespace Host

open State

variable {before after : State} {name : Text}

/-! ## Debugging -/

theorem any_handlerLevels (state : State) (name : Text) :
    (handlerLevels state name).any letsDebug = (state.view name).showsDebug := by
  rw [handlerLevels, LoggerView.showsDebug, view, viewOf, List.any_map, List.any_map]
  rfl

/-- Switching to debugging is seen at the logger alone. -/
theorem Switch.view (switch : Switch name before after) (complete : before.IsComplete)
    (other : Text) :
    after.view other =
      if Loggers.AreSame other name then (before.view other).debugged else before.view other := by
  have levels := any_handlerLevels before name
  cases switch with
  | enough will_do switched =>
    rw [State.view, switched other]
    split
    · rename_i same
      have shows : (before.view other).showsDebug = true := by
        rw [view_eq_of_areSame before same, ← levels, will_do]
      rw [LoggerView.debugged, if_pos shows, List.append_nil]
      rfl
    · rfl
  | console lacking switched =>
    rw [State.view, switched other]
    split
    · rename_i same
      have shows : (before.view other).showsDebug = false := by
        rw [view_eq_of_areSame before same, ← levels, lacking]
      refine (viewOf_add_append (.console .debug) (complete other) .debug).trans ?_
      rw [LoggerView.debugged, shows]
      rfl
    · exact viewOf_add (.console .debug) (complete other)

/-- One of the names is of the same logger. -/
def IsAmong (names : List Text) (name : Text) : Prop :=
  ∃ target ∈ names, Loggers.AreSame name target

instance (names : List Text) (name : Text) : Decidable (IsAmong names name) :=
  inferInstanceAs (Decidable (∃ target ∈ names, Loggers.AreSame name target))

theorem isAmong_cons {first name : Text} {rest : List Text} :
    IsAmong (first :: rest) name ↔ Loggers.AreSame name first ∨ IsAmong rest name := by
  simp [IsAmong]

/-- Loggers that are switched one after the other are switched once each, as far as can be seen. -/
theorem Switches.view {names : List Text} (switches : Switches names before after)
    (steady : before.IsSteady) (name : Text) :
    after.view name =
      if IsAmong names name then (before.view name).debugged else before.view name := by
  induction switches with
  | nil => rfl
  | cons switch keeps _ ih =>
    rw [ih ((switch.isSteady steady).keep keeps), keeps.resembles.view,
      switch.view steady.isComplete name]
    simp only [isAmong_cons]
    split <;> split <;> simp_all

end Host
end Logging
end PackageRepos
