import PackageRepos.Proofs.Logging.Steady

/-!
# Retirement

Handlers retire the last one first, so that those which a handler hands its events on to are still
there when it does. What a handler was set up to do is the same afterwards, except that it hands
nothing on.
-/

namespace PackageRepos
namespace Logging

namespace Handler

/-- What becomes of a handler that is to retire: nothing, if it has retired already. -/
def retiring (handler : Handler) : Handler :=
  if handler.isRetired then handler else State.retired handler

/-- The handler after it has retired, or was retired before. -/
def Retires (handler after : Handler) : Prop := after.setup = handler.retiring.setup

variable {handler after last : Handler}

theorem retiring_of_isRetired (retired : handler.isRetired = true) : handler.retiring = handler :=
  if_pos retired

theorem retiring_of_active (active : handler.isRetired = false) :
    handler.retiring = State.retired handler :=
  if_neg (by simp [active])

@[simp]
theorem isRetired_retiring (handler : Handler) : handler.retiring.isRetired = true := by
  unfold retiring
  split
  · assumption
  · rfl

@[simp]
theorem level_retiring (handler : Handler) : handler.retiring.level = handler.level := by
  unfold retiring
  split <;> rfl

@[simp]
theorem filters_retiring (handler : Handler) : handler.retiring.filters = handler.filters := by
  unfold retiring
  split <;> rfl

theorem sink_retiring
    (idle : ∀ capacity flushLevel recipient, handler.sink ≠ .memory capacity flushLevel recipient) :
    handler.retiring.sink = handler.sink := by
  unfold retiring
  split
  · rfl
  · cases sink_eq : handler.sink <;> simp_all [State.retired, Sink.released]

/-- A handler that has retired hands on nothing of what it holds. -/
theorem sink_retiring_of_memory {capacity flushLevel : Value} {recipient : Recipient}
    (active : handler.isRetired = false ∨ recipient = .nobody)
    (sink_eq : handler.sink = .memory capacity flushLevel recipient) :
    handler.retiring.sink = .memory capacity flushLevel .nobody := by
  unfold retiring
  split <;> simp_all [State.retired, Sink.released]

theorem setup_retired (handler : Handler) :
    (State.retired handler).setup =
      { handler.setup with sink := handler.sink.released, isRetired := true } :=
  rfl

theorem Retires.keep (retires : handler.Retires after) (setup_eq : last.setup = after.setup) :
    handler.Retires last :=
  setup_eq.trans retires

theorem Keeps.retires (keeps : handler.Keeps after) (retires : after.Retires last) :
    handler.Retires last := by
  refine Eq.trans retires ?_
  unfold retiring
  rw [keeps.isRetired]
  split
  · exact keeps.setup
  · rw [setup_retired, setup_retired, keeps.setup, keeps.sink]

namespace Retires

theorem isRetired (retires : handler.Retires after) : after.isRetired = true :=
  (congrArg Handler.isRetired retires).trans (isRetired_retiring handler)

theorem level (retires : handler.Retires after) : after.level = handler.level :=
  (congrArg Handler.level retires).trans (level_retiring handler)

theorem filters (retires : handler.Retires after) : after.filters = handler.filters :=
  (congrArg Handler.filters retires).trans (filters_retiring handler)

theorem sink (retires : handler.Retires after) : after.sink = handler.retiring.sink :=
  (congrArg Handler.sink retires :)

end Retires

end Handler

namespace State

variable {state after : State} {number count : Nat}

/-- The handlers with numbers below a bound have retired. -/
structure Retires (count : Nat) (state after : State) : Prop where
  loggers : after.loggers = state.loggers
  size : after.handlers.length = state.handlers.length
  below : ∀ number < count, (state.handler number).Retires (after.handler number)
  above : ∀ number, count ≤ number → (after.handler number).setup = (state.handler number).setup

/-- A handler retires, and keeps the others. -/
theorem retire_spec (inRange : number < state.handlers.length)
    (flushes : (state.handler number).isRetired = false → state.Flushes number) :
    ∃ after, state.retire number = (.ok (), after) ∧ after.loggers = state.loggers ∧
      after.handlers.length = state.handlers.length ∧
      (state.handler number).Retires (after.handler number) ∧
      ∀ other, other ≠ number → (state.handler other).Keeps (after.handler other) := by
  unfold retire
  cases retired : (state.handler number).isRetired with
  | true =>
    refine ⟨state, rfl, rfl, rfl, ?_, fun other _ => .refl _⟩
    rw [Handler.Retires, Handler.retiring_of_isRetired retired]
  | false =>
    have flushed_ok := (flushes retired).flush_eq_ok
    have keeps := keeps_flush state number
    cases flush_eq : state.flush number with
    | mk outcome flushed =>
      rw [flush_eq] at flushed_ok keeps
      cases flushed_ok
      have there : number < flushed.handlers.length := keeps.size ▸ inRange
      refine ⟨flushed.change number State.retired, rfl, keeps.loggers, ?_, ?_, fun other ne => ?_⟩
      · exact (List.length_modify ..).trans keeps.size
      · refine (keeps.handlers number).retires ?_
        have active := (keeps.handlers number).isRetired.trans retired
        rw [handler_change, if_pos ⟨rfl, there⟩, Handler.Retires, Handler.retiring_of_active active]
      · rw [handler_change, if_neg (fun same => ne same.1)]
        exact keeps.handlers other

theorem forEach_retire (bounded : count ≤ state.handlers.length)
    (flushes : ∀ number < count, (state.handler number).isRetired = false → state.Flushes number) :
    ∃ after, forEach retire state (List.range count).reverse = (.ok (), after) ∧
      Retires count state after := by
  induction count generalizing state with
  | zero => exact ⟨state, rfl, rfl, rfl, nofun, fun _ _ => rfl⟩
  | succ count ih =>
    obtain ⟨next, retired, loggers, size, retires, keeps⟩ :=
      retire_spec bounded (flushes count (Nat.lt_succ_self count))
    have still : ∀ number < count, (next.handler number).isRetired = false →
        next.Flushes number := by
      intro number less active
      have same := keeps number (by omega)
      refine (flushes number (by omega) (same.isRetired ▸ active)).transfer fun other le => ?_
      exact keeps other (by omega)
    obtain ⟨after, done, rest⟩ := ih (by omega) still
    refine ⟨after, ?_, rest.loggers.trans loggers, rest.size.trans size, fun number less => ?_,
      fun number above => ?_⟩
    · rw [List.range_succ, List.reverse_append, List.reverse_singleton, List.singleton_append,
        forEach, retired]
      exact done
    · rcases Nat.lt_succ_iff_lt_or_eq.mp less with less | rfl
      · exact (keeps number (by omega)).retires (rest.below number less)
      · exact retires.keep (rest.above number (Nat.le_refl _))
    · rw [rest.above number (by omega), (keeps number (by omega)).setup]

/-- In a steady state all handlers retire. -/
theorem IsSteady.retireAll (steady : state.IsSteady) :
    ∃ after, state.retireAll = (.ok (), after) ∧ Retires state.handlers.length state after := by
  have nameless : ∀ handler : Handler, handler.Keeps { handler with name := none } :=
    fun _ => ⟨rfl, fun _ _ => id⟩
  have keeps : state.Keeps { state with
      handlers := state.handlers.map fun handler => { handler with name := none } } :=
    .map nameless
  obtain ⟨after, done, retires⟩ := forEach_retire (Nat.le_of_eq keeps.size.symm)
    fun number _ active => (steady.keep keeps).flushes number active
  refine ⟨after, done, retires.loggers, retires.size.trans keeps.size, fun number less => ?_,
    fun number above => ?_⟩
  · exact (keeps.handlers number).retires (retires.below number less)
  · rw [retires.above number above, (keeps.handlers number).setup]

/-- No logger with a name writes to a plain file that is opened again after it was closed. -/
def ReopensNothing (state : State) : Prop :=
  ∀ name, Loggers.namesRoot name = false → ∀ number ∈ (state.loggers.get name).handlers, ∀ log,
    (state.handler number).sink = .file .plain log → log.isEmptied

theorem ReopensNothing.keep (lasting : state.ReopensNothing) (keeps : state.Keeps after) :
    after.ReopensNothing := by
  intro name isNamed number member log sink_eq
  rw [keeps.loggers] at member
  exact lasting name isNamed number member log ((keeps.handlers number).sink.symm.trans sink_eq)

/-- A handler whose file need not be opened again takes every event when it has retired. -/
theorem Takes.retire (takes : state.Takes number)
    (retires : (state.handler number).Retires (after.handler number))
    (closes : ∀ log, (state.handler number).sink = .file .plain log → log.isEmptied) :
    after.Takes number := by
  cases takes with
  | calm named calm =>
    have idle : ∀ capacity flushLevel recipient,
        (state.handler number).sink ≠ .memory capacity flushLevel recipient := by
      intro capacity flushLevel recipient sink_eq
      rw [sink_eq] at calm
      cases calm
    have same := retires.sink.trans (Handler.sink_retiring idle)
    exact .calm (retires.filters ▸ named) (same ▸ calm)
  | @plain number log named sink_eq ready =>
    have same : (after.handler number).sink = .file .plain log := by
      rw [retires.sink, Handler.sink_retiring (by simp [sink_eq]), sink_eq]
    exact .plain (retires.filters ▸ named) same (.inr ⟨closes log sink_eq, retires.isRetired⟩)
  | holding named sink_eq counts weighs =>
    have same := retires.sink.trans (Handler.sink_retiring_of_memory (.inr rfl) sink_eq)
    exact .holding (retires.filters ▸ named) same counts weighs
  | relaying named sink_eq counts weighs active =>
    have same := retires.sink.trans (Handler.sink_retiring_of_memory (.inl active) sink_eq)
    exact .holding (retires.filters ▸ named) same counts weighs

theorem Serves.retire (serves : state.Serves number)
    (retires : Retires state.handlers.length state after)
    (closes : ∀ log, (state.handler number).sink = .file .plain log → log.isEmptied) :
    after.Serves number :=
  have retires' := retires.below number serves.isThere
  { isThere := retires.size ▸ serves.isThere
    weighs := retires'.level ▸ serves.weighs
    takes := serves.takes.retire retires' closes }

end State
end Logging
end PackageRepos
