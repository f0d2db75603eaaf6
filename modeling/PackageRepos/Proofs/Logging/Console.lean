import PackageRepos.Logging.Setup
import PackageRepos.Proofs.Logging.Retirement

/-!
# The console that stands in

When settings are unusable, the root gets a console for events that inform, in place of all its
handlers. This comes off in every steady state, and leaves a steady state unless a plain file would
have to be opened again.
-/

namespace PackageRepos
namespace Logging

open Host

/-- The console that the root gets. -/
def standIn : Handler := { Handler.console .info with name := some (Text.of "console") }

namespace State

/-- The state with a console at the root, and nothing else there. No logger is disabled. -/
def withConsole (state : State) : State :=
  { (state.add standIn).2 with
    loggers :=
      { root :=
          { state.loggers.root with level := .info, handlers := [state.handlers.length] }
        named := state.loggers.named.mapValues fun logger => { logger with isDisabled := false } } }

variable {state after : State} {number : Nat}

/-! ## The settings of the console -/

/-- The parts that the settings of the console have named when handlers are made. -/
def consoleParts : Known where
  sheet := Sheet.put (consoleSheet.erase (Text.of "disable_existing_loggers"))
    { value := .thing "Formatter"
      place := [.name (Text.of "formatters"), .name (Text.of "simple")] }
  layouts := [(Text.of "simple", .packaged)]

/-- The parts after the console was made as the handler with a number. -/
def consoleAttached (number : Nat) : Known :=
  { consoleParts with
    sheet := consoleParts.sheet.put
      { value := .thing "StreamHandler"
        place := [.name (Text.of "handlers"), .name (Text.of "console")] }
    handlers := [(Text.of "console", number)] }

set_option maxRecDepth 4000 in
theorem knownOf_consoleSheet :
    knownOf (consoleSheet.erase (Text.of "disable_existing_loggers")) = .ok consoleParts := by
  rfl

theorem configureHandlers_consoleParts (state : State) :
    configureHandlers consoleParts state =
      (.ok (consoleAttached state.handlers.length), (state.add standIn).2) := by
  rfl

theorem configureNamed_consoleAttached (number : Nat) (loggers : Loggers) :
    configureNamed (configureCommon (consoleAttached number)) (consoleAttached number).sheet
      loggers = (.ok [], loggers) := by
  rfl

theorem configureRoot_consoleAttached (number : Nat) (loggers : Loggers) :
    configureRoot (configureCommon (consoleAttached number)) (consoleAttached number).sheet
      loggers =
        (.ok (),
          { loggers with root := { loggers.root with level := .info, handlers := [number] } }) := by
  have same : configureRoot (configureCommon (consoleAttached number))
      (consoleAttached number).sheet loggers =
      (.ok (), { loggers with root :=
        { loggers.root with
          level := .info, handlers := [number], filters := loggers.root.filters ++ [] } }) := by
    rfl
  rw [same, List.append_nil]

/-- Settings that name no loggers leave all of them as they are, and disable none unless they ask
for it. -/
theorem settleOthers_nil (isDisabled : Bool) (loggers : Loggers) :
    settleOthers isDisabled loggers [] loggers =
      { loggers with
        named := loggers.named.mapValues fun logger => { logger with isDisabled } } := by
  simp only [settleOthers, List.filterMap_nil, List.filter_nil, List.any_nil, Bool.false_eq_true,
    if_false]
  refine congrArg (Loggers.mk loggers.root) ?_
  refine OrderedMap.ext_get? (by simp) fun name => ?_
  rw [OrderedMap.get?_mapEntries, OrderedMap.get?_mapValues]
  cases found : loggers.named.get? name with
  | none => rfl
  | some logger =>
    have existing : name ∈ loggers.named.keys := OrderedMap.mem_keys_of_get? found
    simp [existing]

theorem configure_consoleSheet (retires : state.retireAll = (.ok (), after)) :
    configure state consoleSheet = (.ok (), after.withConsole) := by
  have version : consoleSheet.field "version" =
      .ok (some { value := .int 1, place := [.name (Text.of "version")] }) := rfl
  have incremental : consoleSheet.takeField "incremental" = .ok (none, consoleSheet) := rfl
  have disabling : consoleSheet.takeField "disable_existing_loggers" =
      .ok (some (.bool false), consoleSheet.erase (Text.of "disable_existing_loggers")) := rfl
  have supported : isSupported (.int 1) = true := rfl
  simp only [configure, version, Option.map_some, Option.getD_some, supported, Bool.not_true,
    Bool.false_eq_true, if_false, incremental, Option.map_none, Option.getD_none, configureAnew,
    disabling, retires, knownOf_consoleSheet, configureHandlers_consoleParts, configureAllLoggers,
    configureNamed_consoleAttached, settleOthers_nil, configureRoot_consoleAttached]
  rfl

/-! ## The state with a console -/

theorem handler_add_of_lt (handler : Handler) (inRange : number < state.handlers.length) :
    (state.add handler).2.handler number = state.handler number := by
  simp [add, State.handler, List.getElem?_append_left inRange]

@[simp]
theorem handler_add_self (state : State) (handler : Handler) :
    (state.add handler).2.handler state.handlers.length = handler := by
  simp [add, State.handler]

@[simp]
theorem size_add (state : State) (handler : Handler) :
    (state.add handler).2.handlers.length = state.handlers.length + 1 := by
  simp [add]

/-- What a handler takes does not depend on handlers that are added. -/
theorem Serves.add (serves : state.Serves number) (handler : Handler) :
    (state.add handler).2.Serves number where
  isThere := by
    rw [size_add]
    exact Nat.lt_succ_of_lt serves.isThere
  weighs := by
    rw [handler_add_of_lt handler serves.isThere]
    exact serves.weighs
  takes := serves.takes.transfer fun other le => by
    rw [handler_add_of_lt handler (Nat.lt_of_le_of_lt le serves.isThere)]
    exact .refl _

/-- A console takes every event. -/
theorem serves_console {handler : Handler} (state : State) (sink_eq : handler.sink = .stream)
    (filters_eq : handler.filters = []) (weighs : handler.level.worth?.isSome) :
    (state.add handler).2.Serves state.handlers.length where
  isThere := by simp
  weighs := by simpa using weighs
  takes := by
    refine .calm ?_ ?_
    · simp [filters_eq]
    · simpa [sink_eq] using Sink.IsCalm.stream

theorem get_withConsole (state : State) (name : Text) :
    state.withConsole.loggers.get name =
      if Loggers.namesRoot name then
        { state.loggers.root with level := .info, handlers := [state.handlers.length] }
      else { state.loggers.get name with isDisabled := false } := by
  unfold withConsole Loggers.get
  cases Loggers.namesRoot name with
  | true => rfl
  | false =>
    simp only [Bool.false_eq_true, if_false, OrderedMap.get?_mapValues]
    cases state.loggers.named.get? name <;> rfl

theorem Serves.withLoggers (serves : state.Serves number) (loggers : Loggers) :
    { state with loggers }.Serves number :=
  ⟨serves.isThere, serves.weighs, serves.takes.transfer fun _ _ => .refl _⟩

theorem Flushes.withLoggers (flushes : state.Flushes number) (loggers : Loggers) :
    { state with loggers }.Flushes number :=
  flushes.transfer fun _ _ => .refl _

/-- A console that is added holds nothing. -/
theorem flushes_add {handler : Handler} (sink_eq : handler.sink = .stream)
    (flushes : ∀ number, (state.handler number).isRetired = false → state.Flushes number)
    (number : Nat) (active : ((state.add handler).2.handler number).isRetired = false) :
    (state.add handler).2.Flushes number := by
  rcases Nat.lt_trichotomy number state.handlers.length with former | rfl | beyond
  · rw [handler_add_of_lt handler former] at active
    refine (flushes number active).transfer fun other le => ?_
    rw [handler_add_of_lt handler (Nat.lt_of_le_of_lt le former)]
    exact .refl _
  · intro capacity flushLevel recipient held
    rw [handler_add_self, sink_eq] at held
    cases held
  · intro capacity flushLevel recipient held
    have inRange := lt_of_sink_eq_memory held
    rw [size_add] at inRange
    omega

/-- A steady state can be given a console, and is steady with it unless a file would have to be
opened again. -/
theorem IsSteady.withConsole (steady : state.IsSteady) (lasting : state.ReopensNothing)
    (retires : Retires state.handlers.length state after) : after.withConsole.IsSteady where
  named name := by
    rw [get_withConsole, retires.loggers]
    split
    · exact steady.named []
    · exact steady.named name
  serves name number member := by
    rw [get_withConsole, retires.loggers] at member
    refine Serves.withLoggers ?_ _
    split at member
    · rw [List.mem_singleton.mp member]
      exact serves_console after rfl rfl rfl
    · rename_i isNamed
      have isNamed : Loggers.namesRoot name = false := by simpa using isNamed
      exact ((steady.serves name number member).retire retires
        (lasting name isNamed number member)).add standIn
  flushes := by
    have flushes : ∀ number, (after.handler number).isRetired = false → after.Flushes number := by
      intro number active capacity flushLevel recipient sink_eq
      have former := retires.size ▸ lt_of_sink_eq_memory sink_eq
      have retired := (retires.below number former).isRetired
      rw [active] at retired
      cases retired
    exact fun number active => (flushes_add rfl flushes number active).withLoggers _

end State
end Logging
end PackageRepos
