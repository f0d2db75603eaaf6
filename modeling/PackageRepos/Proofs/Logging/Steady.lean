import PackageRepos.Proofs.Logging.Keeping

/-!
# Handlers that do not fail

Most handlers take every event: what keeps a line from being written is not told. A plain file fails
when it cannot be opened, a filter that is no name when it is asked, and a handler that holds events
when what it counts to is no number, or when the one that it hands them on to fails.
-/

namespace PackageRepos
namespace Logging

/-- The filter goes by a name. -/
def Filter.IsNamed (filter : Filter) : Prop := ∃ name, filter = .below name

/-- An event is dealt with without fail, whatever becomes of the files. -/
inductive Sink.IsCalm : Sink → Prop
  | stream : IsCalm .stream
  | nowhere : IsCalm .nowhere
  | remote (className : String) : IsCalm (.remote className)
  | rotating (maxBytes backups : Value) (log : LogFile) :
    IsCalm (.file (.rotating maxBytes backups) log)
  | timed (backups : Value) (log : LogFile) : IsCalm (.file (.timed backups) log)
  | undecided (log : LogFile) : IsCalm (.file .undecided log)
  | buffer {capacity : Value} (counts : capacity.worth?.isSome) : IsCalm (.buffer capacity)

instance : DecidablePred Sink.IsCalm
  | .stream => isTrue .stream
  | .nowhere => isTrue .nowhere
  | .remote className => isTrue (.remote className)
  | .file (.rotating maxBytes backups) log => isTrue (.rotating maxBytes backups log)
  | .file (.timed backups) log => isTrue (.timed backups log)
  | .file .undecided log => isTrue (.undecided log)
  | .file .plain _ | .file .watched _ | .memory .. | .undecided => isFalse nofun
  | .buffer capacity =>
    if counts : capacity.worth?.isSome then isTrue (.buffer counts)
    else isFalse fun | .buffer found => counts found

/-- What holds of all loggers that were ever used, and of one as it is made, holds of the logger
with any name. -/
theorem Loggers.of_get {loggers : Loggers} {property : Logger → Prop}
    (used : ∀ logger ∈ loggers.root :: loggers.named.toList.map Prod.snd, property logger)
    (unused : property {}) (name : Text) : property (loggers.get name) := by
  unfold Loggers.get
  split
  · exact used _ List.mem_cons_self
  · cases found : loggers.named.get? name with
    | none => exact unused
    | some logger =>
      have member := OrderedMap.get?_eq_some_iff.mp found
      exact used _ (List.mem_cons_of_mem _ (List.mem_map_of_mem member))

namespace State

/-- The handler with a number takes every event. -/
inductive Takes (state : State) : Nat → Prop
  | calm {number : Nat} (named : ∀ filter ∈ (state.handler number).filters, filter.IsNamed)
      (calm : (state.handler number).sink.IsCalm) : Takes state number
  /-- A plain file is open, or is not to be opened any more. -/
  | plain {number : Nat} {log : LogFile}
      (named : ∀ filter ∈ (state.handler number).filters, filter.IsNamed)
      (sink_eq : (state.handler number).sink = .file .plain log)
      (ready : (state.handler number).stream.isSome ∨
        log.isEmptied ∧ (state.handler number).isRetired) : Takes state number
  | holding {number : Nat} {capacity flushLevel : Value}
      (named : ∀ filter ∈ (state.handler number).filters, filter.IsNamed)
      (sink_eq : (state.handler number).sink = .memory capacity flushLevel .nobody)
      (counts : capacity.worth?.isSome) (weighs : flushLevel.worth?.isSome) : Takes state number
  /-- What is held is handed on to a handler that takes it, and was made before. -/
  | relaying {number recipient : Nat} {capacity flushLevel : Value}
      (named : ∀ filter ∈ (state.handler number).filters, filter.IsNamed)
      (sink_eq : (state.handler number).sink = .memory capacity flushLevel (.handler recipient))
      (counts : capacity.worth?.isSome) (weighs : flushLevel.worth?.isSome)
      (active : (state.handler number).isRetired = false)
      (before : recipient < number) (takes : Takes state recipient) : Takes state number

/-- The handler with a number is there, has a number for its level, and takes every event. -/
structure Serves (state : State) (number : Nat) : Prop where
  isThere : number < state.handlers.length
  weighs : (state.handler number).level.worth?.isSome
  takes : state.Takes number

/-- What the handler with a number holds can be handed on. -/
def Flushes (state : State) (number : Nat) : Prop :=
  ∀ capacity flushLevel recipient,
    (state.handler number).sink = .memory capacity flushLevel recipient →
      recipient = .nobody ∨ ∃ other < number, recipient = .handler other ∧ state.Takes other

/-- Every event can be handed on, and every handler that is not retired can be. -/
structure IsSteady (state : State) : Prop where
  named : ∀ name, ∀ filter ∈ (state.loggers.get name).filters, filter.IsNamed
  serves : ∀ name, ∀ number ∈ (state.loggers.get name).handlers, state.Serves number
  flushes : ∀ number, (state.handler number).isRetired = false → state.Flushes number

/-- No handler that is there depends on another one or on a file, and there are no filters. -/
structure IsCalm (state : State) : Prop where
  loggers : ∀ logger ∈ state.loggers.root :: state.loggers.named.toList.map Prod.snd,
    logger.filters = [] ∧ ∀ number ∈ logger.handlers, number < state.handlers.length
  handlers : ∀ handler ∈ state.handlers,
    handler.filters = [] ∧ handler.level.worth?.isSome ∧ handler.sink.IsCalm

instance (state : State) : Decidable state.IsCalm :=
  decidable_of_iff (_ ∧ _) ⟨fun ⟨loggers, handlers⟩ => ⟨loggers, handlers⟩,
    fun ⟨loggers, handlers⟩ => ⟨loggers, handlers⟩⟩

variable {state after : State} {number : Nat} {log : LogFile} {event : Event}

/-- Only a handler that is there holds events for others. -/
theorem lt_of_sink_eq_memory {capacity flushLevel : Value} {recipient : Recipient}
    (sink_eq : (state.handler number).sink = .memory capacity flushLevel recipient) :
    number < state.handlers.length := by
  refine Nat.lt_of_not_le fun beyond => ?_
  rw [handler, List.getElem?_eq_none beyond] at sink_eq
  cases sink_eq

theorem IsCalm.isSteady (calm : state.IsCalm) : state.IsSteady := by
  have known : ∀ name, (state.loggers.get name).filters = [] ∧
      ∀ number ∈ (state.loggers.get name).handlers, number < state.handlers.length :=
    Loggers.of_get calm.loggers ⟨rfl, fun number member => absurd member List.not_mem_nil⟩
  have there : ∀ number < state.handlers.length, state.handler number ∈ state.handlers := by
    intro number inRange
    rw [handler, List.getElem?_eq_getElem inRange]
    exact List.getElem_mem inRange
  refine ⟨fun name => ?_, fun name number member => ?_, fun number _ => ?_⟩
  · rw [(known name).1]
    exact fun filter member => absurd member List.not_mem_nil
  · have inRange := (known name).2 number member
    obtain ⟨unfiltered, weighs, takes⟩ := calm.handlers _ (there number inRange)
    refine ⟨inRange, weighs, .calm ?_ takes⟩
    rw [unfiltered]
    exact fun filter member => absurd member List.not_mem_nil
  · intro capacity flushLevel recipient sink_eq
    have takes := (calm.handlers _ (there number (lt_of_sink_eq_memory sink_eq))).2.2
    rw [sink_eq] at takes
    cases takes

/-! ## Handlers that stay as they are -/

theorem Takes.transfer (takes : state.Takes number)
    (keeps : ∀ other ≤ number, (state.handler other).Keeps (after.handler other)) :
    after.Takes number := by
  induction takes with
  | calm named calm =>
    have same := keeps _ (Nat.le_refl _)
    exact .calm (same.filters ▸ named) (same.sink ▸ calm)
  | @plain number log named sink_eq ready =>
    have same := keeps _ (Nat.le_refl _)
    refine .plain (same.filters ▸ named) (same.sink.trans sink_eq) ?_
    rw [same.isRetired]
    exact ready.imp_left (same.isOpen log sink_eq)
  | holding named sink_eq counts weighs =>
    have same := keeps _ (Nat.le_refl _)
    exact .holding (same.filters ▸ named) (same.sink.trans sink_eq) counts weighs
  | relaying named sink_eq counts weighs active before takes ih =>
    have same := keeps _ (Nat.le_refl _)
    have taken := ih fun other le => keeps other (by omega)
    exact .relaying (same.filters ▸ named) (same.sink.trans sink_eq) counts weighs
      (same.isRetired.trans active) before taken

theorem Flushes.transfer (flushes : state.Flushes number)
    (keeps : ∀ other ≤ number, (state.handler other).Keeps (after.handler other)) :
    after.Flushes number := by
  intro capacity flushLevel recipient sink_eq
  have sink_before := (keeps number (Nat.le_refl _)).sink.symm.trans sink_eq
  refine (flushes capacity flushLevel recipient sink_before).imp_right ?_
  rintro ⟨other, before, recipient_eq, takes⟩
  exact ⟨other, before, recipient_eq, takes.transfer fun next le => keeps next (by omega)⟩

theorem Takes.keep (takes : state.Takes number) (keeps : state.Keeps after) : after.Takes number :=
  takes.transfer fun other _ => keeps.handlers other

theorem Serves.keep (serves : state.Serves number) (keeps : state.Keeps after) :
    after.Serves number where
  isThere := keeps.size ▸ serves.isThere
  weighs := (keeps.handlers number).level ▸ serves.weighs
  takes := serves.takes.keep keeps

theorem IsSteady.keep (steady : state.IsSteady) (keeps : state.Keeps after) : after.IsSteady where
  named := keeps.loggers ▸ steady.named
  serves name number member :=
    (steady.serves name number (keeps.loggers ▸ member)).keep keeps
  flushes number active :=
    (steady.flushes number ((keeps.handlers number).isRetired ▸ active)).transfer
      fun other _ => keeps.handlers other

/-! ## Handing events on -/

/-- Actions that keep a condition and come off under it come off one after the other. -/
theorem forEach_eq_ok {α : Type} {act : State → α → Act} {items : List α}
    (condition : State → Prop)
    (each : ∀ state, ∀ item ∈ items, condition state →
      (act state item).1 = .ok () ∧ condition (act state item).2)
    (holds : condition state) : (forEach act state items).1 = .ok () := by
  induction items generalizing state with
  | nil => rfl
  | cons item rest ih =>
    obtain ⟨done, kept⟩ := each state item List.mem_cons_self holds
    rw [forEach]
    cases acted : act state item with
    | mk outcome after =>
      rw [acted] at done kept
      cases done
      exact ih (fun state item member => each state item (List.mem_cons_of_mem _ member)) kept

theorem exists_passesAll (event : Event) {filters : List Filter}
    (named : ∀ filter ∈ filters, filter.IsNamed) :
    ∃ passes, Filter.passesAll event filters = .ok passes := by
  induction filters with
  | nil => exact ⟨true, rfl⟩
  | cons filter rest ih =>
    obtain ⟨⟨name, rfl⟩, others⟩ := List.forall_mem_cons.mp named
    rw [Filter.passesAll, Filter.passes]
    split
    · exact ih others
    · exact ⟨_, rfl⟩

theorem exists_reaches (count : Int) {value : Value} (kind : String)
    (weighs : value.worth?.isSome) : ∃ enough, reaches count value kind = .ok enough := by
  obtain ⟨worth, worth_eq⟩ := Option.isSome_iff_exists.mp weighs
  exact ⟨_, by rw [reaches, worth_eq]⟩

theorem writeToFile_eq_ok (event : Event)
    (ready : (state.handler number).stream.isSome ∨
      log.isEmptied ∧ (state.handler number).isRetired) :
    (state.writeToFile number log event).1 = .ok () := by
  unfold writeToFile
  dsimp only
  split
  · rfl
  · rename_i isNeeded
    have isOpen : (state.handler number).stream.isSome := by
      cases held : (state.handler number).stream with
      | some stream => rfl
      | none =>
        obtain ⟨emptied, retired⟩ := ready.resolve_left (by simp [held])
        exact absurd (by simp [held, emptied, retired]) isNeeded
    rw [ensureOpen, if_pos isOpen]
    cases (state.handler number).line? event <;> rfl

theorem exists_hold (state : State) (number : Nat) {capacity : Value}
    (flushLevel : Option Value) (event : Event) (counts : capacity.worth?.isSome)
    (weighs : ∀ level ∈ flushLevel, level.worth?.isSome) :
    ∃ isFull held, state.hold number capacity flushLevel event = (.ok isFull, held) ∧
      state.Keeps held := by
  suffices done : ∃ isFull, (state.hold number capacity flushLevel event).1 = .ok isFull by
    obtain ⟨isFull, done⟩ := done
    exact ⟨isFull, _, Prod.ext done rfl, keeps_hold ..⟩
  unfold hold
  dsimp only
  obtain ⟨enough, reached⟩ := exists_reaches
    ((state.change number fun handler =>
      { handler with held := handler.held ++ [event] }).handler number).held.length
    (settingKind capacity) counts
  rw [reached]
  cases enough with
  | true => exact ⟨true, rfl⟩
  | false =>
    cases flushLevel with
    | none => exact ⟨false, rfl⟩
    | some level => exact exists_reaches _ _ (weighs level rfl)

theorem release_eq_ok {hand : State → Nat → Event → Act} {recipient : Nat} (number : Nat)
    (hands : ∀ state event, Takes state recipient →
      (hand state recipient event).1 = .ok () ∧ (hand state recipient event).2.Takes recipient)
    (takes : state.Takes recipient) :
    (state.release number (.handler recipient) hand).1 = .ok () := by
  have handed : (forEach (fun state event => hand state recipient event) state
      (state.handler number).held).1 = .ok () :=
    forEach_eq_ok (Takes · recipient) (fun state event _ => hands state event) takes
  simp only [release]
  split
  · rfl
  · exact handed

theorem Takes.handleWithin_eq_ok (takes : state.Takes number) (event : Event) (fuel : Nat) :
    (state.handleWithin number event fuel).1 = .ok () := by
  induction fuel generalizing state number event with
  | zero => rfl
  | succ fuel ih =>
    rw [handleWithin]
    cases takes with
    | calm named calm =>
      obtain ⟨passes, passed⟩ := exists_passesAll event named
      generalize sink_eq : (state.handler number).sink = sink at calm
      cases calm <;> cases passes <;> simp only [passed]
      case buffer.true capacity counts =>
        obtain ⟨isFull, held, filled, -⟩ := exists_hold state number none event counts (by simp)
        rw [filled]
        cases isFull <;> rfl
      all_goals rfl
    | plain named sink_eq ready =>
      obtain ⟨passes, passed⟩ := exists_passesAll event named
      cases passes <;> simp only [passed, sink_eq]
      exact writeToFile_eq_ok event ready
    | @holding number capacity flushLevel named sink_eq counts weighs =>
      obtain ⟨passes, passed⟩ := exists_passesAll event named
      cases passes <;> simp only [passed, sink_eq]
      obtain ⟨isFull, held, filled, -⟩ := exists_hold state number (some flushLevel) event counts
        (by simpa using weighs)
      rw [filled]
      cases isFull <;> rfl
    | @relaying number recipient capacity flushLevel named sink_eq counts weighs active before
        takes =>
      obtain ⟨passes, passed⟩ := exists_passesAll event named
      cases passes <;> simp only [passed, sink_eq]
      obtain ⟨isFull, held, filled, keeps⟩ := exists_hold state number (some flushLevel) event
        counts (by simpa using weighs)
      rw [filled]
      cases isFull with
      | false => rfl
      | true =>
        exact release_eq_ok number (fun state event takes =>
          ⟨ih takes event, takes.keep (keeps_handleWithin ..)⟩) (takes.keep keeps)

theorem Serves.offer_eq_ok (serves : state.Serves number) (event : Event) :
    (offer event state number).1 = .ok () := by
  obtain ⟨enough, reached⟩ := exists_reaches event.level.number
    (state.handler number).level.kindName serves.weighs
  unfold offer
  simp only [reached]
  cases enough with
  | false => rfl
  | true => exact serves.takes.handleWithin_eq_ok event _

theorem exists_of_mem_handlersFor {line : List Logger}
    (member : number ∈ Loggers.handlersFor line) : ∃ logger ∈ line, number ∈ logger.handlers := by
  induction line with
  | nil => cases member
  | cons logger above ih =>
    rw [Loggers.handlersFor, List.mem_append] at member
    rcases member with own | inherited
    · exact ⟨logger, List.mem_cons_self, own⟩
    · split at inherited
      · obtain ⟨found, listed, handles⟩ := ih inherited
        exact ⟨found, List.mem_cons_of_mem _ listed, handles⟩
      · cases inherited

theorem exists_get_of_mem_line {loggers : Loggers} {name : Text} {logger : Logger}
    (member : logger ∈ loggers.line name) : ∃ other, loggers.get other = logger := by
  have root : loggers.get [] = loggers.root := rfl
  unfold Loggers.line at member
  split at member
  · exact ⟨[], root.trans (List.mem_singleton.mp member).symm⟩
  · rcases List.mem_append.mp member with named | last
    · obtain ⟨other, -, same⟩ := List.mem_map.mp named
      exact ⟨other, same⟩
    · exact ⟨[], root.trans (List.mem_singleton.mp last).symm⟩

/-- In a steady state every event is handed on. -/
theorem IsSteady.deliver_eq_ok (steady : state.IsSteady) (event : Event) :
    (state.deliver event).1 = .ok () := by
  obtain ⟨passes, passed⟩ := exists_passesAll event (steady.named event.logger)
  unfold deliver
  rw [passed]
  cases passes with
  | false => rfl
  | true =>
    have serve : ∀ number ∈ Loggers.handlersFor (state.loggers.line event.logger),
        state.Serves number := by
      intro number member
      obtain ⟨logger, listed, handles⟩ := exists_of_mem_handlersFor member
      obtain ⟨name, rfl⟩ := exists_get_of_mem_line listed
      exact steady.serves name number handles
    refine forEach_eq_ok (fun after =>
      ∀ number ∈ Loggers.handlersFor (state.loggers.line event.logger), after.Serves number)
      (fun after number member serve => ?_) serve
    exact ⟨(serve number member).offer_eq_ok event, fun other listed =>
      (serve other listed).keep (keeps_offer event after number)⟩

theorem Flushes.flush_eq_ok (flushes : state.Flushes number) : (state.flush number).1 = .ok () := by
  unfold flush
  split
  · rename_i capacity flushLevel recipient sink_eq
    obtain rfl | ⟨other, -, rfl, takes⟩ := flushes capacity flushLevel recipient sink_eq
    · rfl
    · exact release_eq_ok number (fun state event takes =>
        ⟨takes.handleWithin_eq_ok event _, takes.keep (keeps_handle ..)⟩) takes
  · rfl

end State
end Logging
end PackageRepos
