import PackageRepos.Proofs.Logging.Console

/-!
# Switching loggers to debugging

Loggers are switched to debugging one after the other. Each gets a console unless one of its
handlers lets debugging events through, and tells so; nothing else changes. In a steady state this
comes off, and leaves a steady state.
-/

namespace PackageRepos
namespace Logging

namespace Loggers

/-- The names are of one logger. -/
def AreSame (name other : Text) : Prop := name = other ∨ namesRoot name ∧ namesRoot other

instance (name other : Text) : Decidable (AreSame name other) :=
  inferInstanceAs (Decidable (_ ∨ _))

theorem get_eq_of_areSame {name other : Text} (loggers : Loggers) (same : AreSame name other) :
    loggers.get name = loggers.get other := by
  rcases same with rfl | ⟨root, otherRoot⟩
  · rfl
  · simp [get, root, otherRoot]

theorem get_set (loggers : Loggers) (name other : Text) (logger : Logger) :
    (loggers.set name logger).get other =
      if AreSame other name then logger else loggers.get other := by
  unfold set get AreSame
  by_cases root : namesRoot name = true <;> by_cases otherRoot : namesRoot other = true
  · simp [root, otherRoot]
  · have ne : other ≠ name := fun same => otherRoot (same ▸ root)
    simp [root, otherRoot, ne]
  · have ne : other ≠ name := fun same => root (same ▸ otherRoot)
    simp [root, otherRoot, ne]
  · by_cases same : other = name
    · simp [root, same]
    · simp [root, otherRoot, same, OrderedMap.get?_insert]

end Loggers

namespace Host

/-- One of the handlers of the logger with a name lets debugging events through. -/
def ShowsDebugging (state : State) (name : Text) : Prop :=
  ∃ number ∈ (state.loggers.get name).handlers,
    showsDebugging (state.handler number).level = .ok true

/-- Loggers were switched to debugging, and nothing else was done but adding handlers to them. -/
structure Debugged (names : List Text) (before after : State) : Prop where
  level : ∀ name ∈ names, (after.loggers.get name).level = .debug
  shows : ∀ name ∈ names, ShowsDebugging after name
  others : ∀ name, (∀ target ∈ names, ¬ Loggers.AreSame name target) →
    after.loggers.get name = before.loggers.get name
  kept : ∀ name, ∃ level added, after.loggers.get name =
    { before.loggers.get name with
      level, handlers := (before.loggers.get name).handlers ++ added }
  handlers : ∀ number < before.handlers.length, (before.handler number).Keeps (after.handler number)
  size : before.handlers.length ≤ after.handlers.length

variable {before after last : State} {name : Text} {names rest : List Text}

theorem Debugged.keep (debugged : Debugged names before after) (keeps : after.Keeps last) :
    Debugged names before last where
  level := keeps.loggers ▸ debugged.level
  shows name member := by
    obtain ⟨number, listed, shows⟩ := debugged.shows name member
    refine ⟨number, keeps.loggers ▸ listed, ?_⟩
    rw [(keeps.handlers number).level, shows]
  others := keeps.loggers ▸ debugged.others
  kept := keeps.loggers ▸ debugged.kept
  handlers number inRange := (debugged.handlers number inRange).trans (keeps.handlers number)
  size := keeps.size ▸ debugged.size

/-- Work of handlers before loggers are switched makes no difference. -/
theorem Debugged.of_keeps (debugged : Debugged names after last) (keeps : before.Keeps after) :
    Debugged names before last where
  level := debugged.level
  shows := debugged.shows
  others := keeps.loggers ▸ debugged.others
  kept := keeps.loggers ▸ debugged.kept
  handlers number inRange :=
    (keeps.handlers number).trans (debugged.handlers number (keeps.size ▸ inRange))
  size := keeps.size ▸ debugged.size

theorem Debugged.nil (state : State) : Debugged [] state state where
  level := nofun
  shows := nofun
  others _ _ := rfl
  kept name := ⟨(state.loggers.get name).level, [], by rw [List.append_nil]⟩
  handlers _ _ := .refl _
  size := Nat.le_refl _

/-- What one logger is switched to stays as it is while others are switched. -/
theorem Debugged.cons (steady : after.IsSteady) (first : Debugged [name] before after)
    (others : Debugged rest after last) : Debugged (name :: rest) before last := by
  have own : (∃ target ∈ rest, Loggers.AreSame name target) ∨
      last.loggers.get name = after.loggers.get name := by
    by_cases again : ∃ target ∈ rest, Loggers.AreSame name target
    · exact .inl again
    · exact .inr (others.others name fun target member same => again ⟨target, member, same⟩)
  refine ⟨List.forall_mem_cons.mpr ⟨?_, others.level⟩, List.forall_mem_cons.mpr ⟨?_, others.shows⟩,
    fun other apart => ?_, fun other => ?_, fun number inRange => ?_,
    Nat.le_trans first.size others.size⟩
  · obtain ⟨target, member, same⟩ | same := own
    · rw [Loggers.get_eq_of_areSame _ same]
      exact others.level target member
    · rw [same]
      exact first.level name List.mem_cons_self
  · obtain ⟨target, member, same⟩ | same := own
    · obtain ⟨number, listed, shows⟩ := others.shows target member
      exact ⟨number, Loggers.get_eq_of_areSame _ same ▸ listed, shows⟩
    · obtain ⟨number, listed, shows⟩ := first.shows name List.mem_cons_self
      refine ⟨number, same ▸ listed, ?_⟩
      rw [(others.handlers number (steady.serves name number listed).isThere).level, shows]
  · obtain ⟨apartFirst, apartRest⟩ := List.forall_mem_cons.mp apart
    rw [others.others other apartRest, first.others other (by simpa using apartFirst)]
  · obtain ⟨level, added, first_eq⟩ := first.kept other
    obtain ⟨lastLevel, more, last_eq⟩ := others.kept other
    refine ⟨lastLevel, added ++ more, ?_⟩
    rw [last_eq, first_eq, List.append_assoc]
  · exact (first.handlers number inRange).trans
      (others.handlers number (Nat.lt_of_lt_of_le inRange first.size))

/-! ## One logger -/

/-- The level is a number that lets debugging events through. -/
def letsDebug (level : Value) : Bool := level.worth?.any (Worth.ofInt Level.debug.rank).reaches

theorem showsDebugging_eq_ok {level : Value} (weighs : level.worth?.isSome) :
    showsDebugging level = .ok (letsDebug level) := by
  obtain ⟨worth, worth_eq⟩ := Option.isSome_iff_exists.mp weighs
  rw [showsDebugging, letsDebug, worth_eq]
  rfl

theorem anyShowsDebugging_eq_ok {levels : List Value}
    (weigh : ∀ level ∈ levels, level.worth?.isSome) :
    anyShowsDebugging levels = .ok (levels.any letsDebug) := by
  induction levels with
  | nil => rfl
  | cons level rest ih =>
    obtain ⟨weighs, others⟩ := List.forall_mem_cons.mp weigh
    rw [anyShowsDebugging, showsDebugging_eq_ok weighs]
    cases shown : letsDebug level with
    | true => simp [shown]
    | false => simpa [shown] using ih others

/-- The levels of the handlers of the logger with a name. -/
def handlerLevels (state : State) (name : Text) : List Value :=
  (state.loggers.get name).handlers.map fun number => (state.handler number).level

/-- The logger with a name is switched to debugging, and gets handlers in addition to its own. -/
def Switched (name : Text) (added : List Nat) (before after : State) : Prop :=
  ∀ other, after.loggers.get other =
    if Loggers.AreSame other name then
      { before.loggers.get other with
        level := .debug, handlers := (before.loggers.get other).handlers ++ added }
    else before.loggers.get other

/-- A logger gets handlers that serve. -/
theorem Switched.isSteady {added : List Nat} (switched : Switched name added before after)
    (steady : before.IsSteady) (serve : ∀ number, before.Serves number → after.Serves number)
    (addedServe : ∀ number ∈ added, after.Serves number)
    (flushes : ∀ number, (after.handler number).isRetired = false → after.Flushes number) :
    after.IsSteady where
  named other := by
    rw [switched other]
    split <;> exact steady.named other
  serves other number member := by
    rw [switched other] at member
    split at member
    · rcases List.mem_append.mp member with own | new
      · exact serve number (steady.serves other number own)
      · exact addedServe number new
    · exact serve number (steady.serves other number member)
  flushes := flushes

theorem Switched.debugged {added : List Nat} (switched : Switched name added before after)
    (shows : ShowsDebugging after name) (size : before.handlers.length ≤ after.handlers.length)
    (handlers : ∀ number < before.handlers.length,
      (before.handler number).Keeps (after.handler number)) :
    Debugged [name] before after where
  level := by
    rw [List.forall_mem_singleton, switched name, if_pos (.inl rfl)]
  shows := List.forall_mem_singleton.mpr shows
  others other apart := by
    rw [switched other, if_neg (apart name List.mem_cons_self)]
  kept other := by
    rw [switched other]
    split
    · exact ⟨_, _, rfl⟩
    · exact ⟨(before.loggers.get other).level, [], by rw [List.append_nil]⟩
  handlers := handlers
  size := size

/-- What switching a logger to debugging leads to: it gets a console unless one of its handlers
will do. -/
inductive Switch (name : Text) (before : State) : State → Prop
  | enough {loggers : Loggers} (will_do : (handlerLevels before name).any letsDebug = true)
      (switched : Switched name [] before { before with loggers }) :
    Switch name before { before with loggers }
  | console {loggers : Loggers} (lacking : (handlerLevels before name).any letsDebug = false)
      (switched : Switched name [before.handlers.length] before
        { (before.add (.console .debug)).2 with loggers }) :
    Switch name before { (before.add (.console .debug)).2 with loggers }

/-- In a steady state it can be decided whether the handlers of a logger will do. -/
theorem exists_switch (steady : before.IsSteady) (name : Text) :
    ∃ after, debugging before name = (.ok (), after) ∧ Switch name before after := by
  have weigh : ∀ level ∈ handlerLevels before name, level.worth?.isSome := by
    intro level member
    obtain ⟨number, listed, rfl⟩ := List.mem_map.mp member
    exact (steady.serves name number listed).weighs
  have decided := anyShowsDebugging_eq_ok weigh
  unfold debugging
  dsimp only
  cases shown : (handlerLevels before name).any letsDebug with
  | true =>
    rw [shown, handlerLevels] at decided
    rw [decided]
    refine ⟨_, rfl, .enough shown fun other => ?_⟩
    rw [Loggers.get_set]
    split
    · rename_i same
      rw [Loggers.get_eq_of_areSame _ same, List.append_nil]
    · rfl
  | false =>
    rw [shown, handlerLevels] at decided
    rw [decided]
    refine ⟨_, rfl, .console shown fun other => ?_⟩
    simp only [State.add, Loggers.get_set]
    split
    · rename_i same
      rw [Loggers.get_eq_of_areSame _ same]
    · rfl

theorem Switch.isSteady (switch : Switch name before after) (steady : before.IsSteady) :
    after.IsSteady := by
  cases switch with
  | enough _ switched =>
    refine switched.isSteady steady ?_ nofun ?_
    · exact fun number serves => serves.withLoggers _
    · exact fun number active => (steady.flushes number active).withLoggers _
  | console _ switched =>
    refine switched.isSteady steady ?_ ?_ ?_
    · exact fun number serves => (serves.add _).withLoggers _
    · refine List.forall_mem_singleton.mpr (State.Serves.withLoggers ?_ _)
      exact State.serves_console before rfl rfl rfl
    · exact fun number active => (State.flushes_add rfl steady.flushes number active).withLoggers _

theorem Switch.debugged (switch : Switch name before after) (steady : before.IsSteady) :
    Debugged [name] before after := by
  cases switch with
  | enough will_do switched =>
    obtain ⟨level, member, lets⟩ := List.any_eq_true.mp will_do
    obtain ⟨number, listed, rfl⟩ := List.mem_map.mp member
    refine switched.debugged ⟨number, ?_, ?_⟩ (Nat.le_refl _) fun number _ => .refl _
    · rw [switched name, if_pos (.inl rfl)]
      exact List.mem_append_left _ listed
    · exact (showsDebugging_eq_ok (steady.serves name number listed).weighs).trans
        (congrArg _ lets)
  | console _ switched =>
    have former : ∀ number < before.handlers.length,
        (before.add (.console .debug)).2.handler number = before.handler number :=
      fun number inRange => State.handler_add_of_lt _ inRange
    refine switched.debugged ⟨before.handlers.length, ?_, ?_⟩ ?_ fun number inRange => ?_
    · rw [switched name, if_pos (.inl rfl)]
      exact List.mem_append_right _ List.mem_cons_self
    · change showsDebugging
        ((before.add (.console .debug)).2.handler before.handlers.length).level = .ok true
      rw [State.handler_add_self]
      rfl
    · exact State.size_add before _ ▸ Nat.le_succ _
    · change (before.handler number).Keeps ((before.add (.console .debug)).2.handler number)
      rw [former number inRange]
      exact .refl _

/-! ## All loggers -/

/-- Recording an event changes what handlers work on and the journal. -/
theorem exists_record (host : Host) (event : Event) :
    ∃ state journal, (host.record event).2 = { host with state, journal } ∧
      host.state.Keeps state := by
  unfold record
  split
  · exact ⟨_, _, rfl, State.keeps_deliver host.state event⟩
  · exact ⟨host.state, host.journal, rfl, .refl _⟩

/-- In a steady state an event is recorded. -/
theorem record_spec (host : Host) (steady : host.state.IsSteady) (event : Event) :
    ∃ state journal, host.record event = (.ok (), { host with state, journal }) ∧
      host.state.Keeps state := by
  obtain ⟨state, journal, recorded, keeps⟩ := exists_record host event
  have done : (host.record event).1 = .ok () := by
    unfold record
    split
    · exact steady.deliver_eq_ok event
    · rfl
  exact ⟨state, journal, Prod.ext done recorded, keeps⟩

theorem recordAll_spec (host : Host) (steady : host.state.IsSteady) (events : List Event) :
    ∃ state journal, host.recordAll events = (.ok (), { host with state, journal }) ∧
      host.state.Keeps state := by
  induction events generalizing host with
  | nil => exact ⟨host.state, host.journal, rfl, .refl _⟩
  | cons event rest ih =>
    obtain ⟨state, journal, recorded, keeps⟩ := record_spec host steady event
    obtain ⟨last, journalled, done, kept⟩ :=
      ih { host with state, journal } (steady.keep keeps)
    exact ⟨last, journalled, by rw [recordAll, recorded]; exact done, keeps.trans kept⟩

/-- Loggers are switched one after the other, and handlers work in between. -/
inductive Switches : List Text → State → State → Prop
  | nil (state : State) : Switches [] state state
  | cons {name : Text} {rest : List Text} {before switched next last : State}
      (switch : Switch name before switched) (keeps : switched.Keeps next)
      (others : Switches rest next last) : Switches (name :: rest) before last

theorem exists_switches (host : Host) (steady : host.state.IsSteady) (names : List Text) :
    ∃ state journal, host.debugLoggers names = (.ok (), { host with state, journal }) ∧
      Switches names host.state state := by
  induction names generalizing host with
  | nil => exact ⟨host.state, host.journal, rfl, .nil host.state⟩
  | cons name rest ih =>
    obtain ⟨switched, switching, switch⟩ := exists_switch steady name
    have kept := switch.isSteady steady
    obtain ⟨state, journal, recorded, keeps⟩ :=
      record_spec { host with state := switched } kept (.debugTarget name)
    obtain ⟨last, journalled, done, others⟩ := ih { host with state, journal } (kept.keep keeps)
    refine ⟨last, journalled, ?_, .cons switch keeps others⟩
    simp only [debugLoggers, debugLogger, act, switching, recorded]
    exact done

theorem Switches.isSteady (switches : Switches names before after) (steady : before.IsSteady) :
    after.IsSteady := by
  induction switches with
  | nil => exact steady
  | cons switch keeps _ ih => exact ih ((switch.isSteady steady).keep keeps)

theorem Switches.debugged (switches : Switches names before after) (steady : before.IsSteady) :
    Debugged names before after := by
  induction switches with
  | nil => exact .nil _
  | cons switch keeps _ ih =>
    have kept := (switch.isSteady steady).keep keeps
    exact .cons kept ((switch.debugged steady).keep keeps) (ih kept)

/-- In a steady state all named loggers are switched to debugging. -/
theorem debugLoggers_spec (host : Host) (steady : host.state.IsSteady) (names : List Text) :
    ∃ state journal, host.debugLoggers names = (.ok (), { host with state, journal }) ∧
      state.IsSteady ∧ Debugged names host.state state := by
  obtain ⟨state, journal, done, switches⟩ := exists_switches host steady names
  exact ⟨state, journal, done, switches.isSteady steady, switches.debugged steady⟩

end Host
end Logging
end PackageRepos
