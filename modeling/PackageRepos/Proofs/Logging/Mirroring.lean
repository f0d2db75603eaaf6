import PackageRepos.Proofs.Logging.Views

/-!
# The same handlers once more

Two configurations from the same settings make handlers of the same descriptions, one after the
other, whatever states they start from. Only the numbers of the handlers differ, by as many as there
were before.
-/

namespace PackageRepos
namespace Logging

/-! ## Plans -/

namespace Making

/-- What is made without anybody to hand events on to. -/
def released (making : Making) : Making := { making with sink := making.sink.released }

/-- Arguments make the same of a class, whoever is handed events. -/
theorem ofArguments?_released (handlerClass : HandlerClass) (arguments : Arguments)
    (recipient other : Recipient) :
    (ofArguments? handlerClass arguments recipient).map released =
      (ofArguments? handlerClass arguments other).map released := by
  unfold ofArguments?
  dsimp only
  split
  · rfl
  · cases handlerClass <;> rfl

end Making

/-- The recipient with another number. -/
def Recipient.renumbered (f : Nat → Nat) : Recipient → Recipient
  | .handler number => .handler (f number)
  | recipient => recipient

/-- The parts with other numbers of handlers. -/
def Known.renumbered (f : Nat → Nat) (known : Known) : Known :=
  { known with handlers := known.handlers.map (Prod.map id f) }

namespace HandlerPlan

/-- The plan of a handler without anybody to hand events on to. -/
def released (plan : HandlerPlan) : HandlerPlan := { plan with making := plan.making.released }

theorem namedRecipient_renumbered (f : Nat → Nat) (known : Known) (parts : Option Setting)
    (name : Value) :
    namedRecipient (known.renumbered f) parts name =
      (namedRecipient known parts name).map (Recipient.renumbered f) := by
  unfold namedRecipient Known.renumbered
  dsimp only
  split
  · rw [List.find?_map]
    simp only [Function.comp_def, Prod.map_fst, id_eq]
    cases known.handlers.find? _ <;> rfl
  · rfl

theorem chooseRecipient_renumbered (f : Nat → Nat) (known : Known) (parts : Option Setting)
    (isMade : Bool) (target : Option Value) :
    chooseRecipient (known.renumbered f) parts isMade target =
      (chooseRecipient known parts isMade target).map (Recipient.renumbered f) := by
  unfold chooseRecipient
  split
  · rfl
  · split
    · split <;> rfl
    · exact namedRecipient_renumbered f known parts _

theorem map_bind_congr {α β γ ε : Type} {first : Except ε α} {next other : α → Except ε β}
    {f : β → γ} (same : ∀ value, (next value).map f = (other value).map f) :
    (first >>= next).map f = (first >>= other).map f := by
  cases first with
  | error failure => rfl
  | ok value => exact same value

theorem map_bind_of_eq_map {α β γ δ ε : Type} {first : Except ε α} {second : Except ε β}
    {g : α → β} (mapped : second = first.map g) {next : α → Except ε γ} {other : β → Except ε γ}
    {f : γ → δ} (same : ∀ value, (other (g value)).map f = (next value).map f) :
    (second >>= other).map f = (first >>= next).map f := by
  subst mapped
  cases first with
  | error failure => rfl
  | ok value => exact same value

theorem map_need_congr {α γ : Type} {first second : Option Making}
    {next other : Making → Except Refusal α} {f : α → γ}
    (made : first.map Making.released = second.map Making.released)
    (same : ∀ making remade : Making, making.released = remade.released →
      (next making).map f = (other remade).map f) :
    (need first >>= next).map f = (need second >>= other).map f := by
  cases first with
  | none =>
    cases second with
    | none => rfl
    | some remade => cases made
  | some making =>
    cases second with
    | none => cases made
    | some remade => exact same making remade (Option.some.inj made)

/-- What a handler is made from does not depend on the numbers of the handlers before it. -/
theorem ofSettings_renumbered (f : Nat → Nat) (known : Known) (parts : Option Setting)
    (part : Setting) :
    (ofSettings (known.renumbered f) parts part).map (Prod.map released id) =
      (ofSettings known parts part).map (Prod.map released id) := by
  unfold ofSettings
  refine map_bind_congr fun ⟨formatter, sheet, part⟩ => ?_
  refine map_bind_congr fun layout => ?_
  refine map_bind_congr fun ⟨level, sheet, part⟩ => ?_
  refine map_bind_congr fun ⟨filterNames, sheet, part⟩ => ?_
  refine map_bind_congr fun ⟨handlerClass, sheet, part⟩ => ?_
  refine map_bind_congr fun target => ?_
  refine map_bind_of_eq_map (chooseRecipient_renumbered f { known with sheet } parts _ _)
    fun recipient => ?_
  refine map_bind_congr fun arguments => ?_
  refine map_need_congr (Making.ofArguments?_released handlerClass arguments _ recipient)
    fun making remade same => ?_
  simp only [Except.map, Prod.map, released, same]
  rfl

theorem ofSettings_renumbered_of_error {f : Nat → Nat} {known : Known} {parts : Option Setting}
    {part : Setting} {refusal : Refusal} (refused : ofSettings known parts part = .error refusal) :
    ofSettings (known.renumbered f) parts part = .error refusal := by
  have same := ofSettings_renumbered f known parts part
  rw [refused] at same
  cases planned : ofSettings (known.renumbered f) parts part with
  | error other =>
    rw [planned] at same
    cases same
    rfl
  | ok pair =>
    rw [planned] at same
    cases same

theorem exists_ofSettings_renumbered {f : Nat → Nat} {known : Known} {parts : Option Setting}
    {part : Setting} {plan : HandlerPlan} {left : Sheet}
    (planned : ofSettings known parts part = .ok (plan, left)) :
    ∃ other, ofSettings (known.renumbered f) parts part = .ok (other, left) ∧
      other.released = plan.released := by
  have same := ofSettings_renumbered f known parts part
  rw [planned] at same
  cases replanned : ofSettings (known.renumbered f) parts part with
  | error refusal =>
    rw [replanned] at same
    cases same
  | ok pair =>
    obtain ⟨other, rest⟩ := pair
    rw [replanned] at same
    obtain ⟨released, rfl⟩ := Prod.mk.inj (Except.ok.inj same)
    exact ⟨other, rfl, released⟩

end HandlerPlan

/-! ## Handlers -/

namespace Sink

@[simp]
theorem className_released (sink : Sink) : sink.released.className = sink.className := by
  cases sink <;> rfl

/-- Whom events are handed on to makes no difference to what else is set. -/
theorem released_set (sink : Sink) (name : String) (value : Value) :
    (sink.set name value).released = (sink.released.set name value).released := by
  cases sink with
  | memory capacity flushLevel recipient =>
    by_cases known : name = "capacity" ∨ name = "flushLevel" ∨ name = "target"
    · rcases known with rfl | rfl | rfl <;> rfl
    · have unchanged : ∀ recipient, (memory capacity flushLevel recipient).set name value =
          memory capacity flushLevel recipient := by
        intro recipient
        unfold set
        split <;> simp_all
      exact (congrArg released (unchanged recipient)).trans
        (congrArg released (unchanged .nobody)).symm
  | _ => rfl

end Sink

namespace Handler

theorem description_set (handler : Handler) (name : Text) (value : Value) :
    (handler.set name value).description = (handler.description.set name value).description := by
  unfold set
  dsimp only
  split
  · simp [description, setup]
  · split <;> simp [description, setup]
  · split <;> simp [description, setup]
  · simp [description, setup, ← Sink.released_set]

theorem description_foldl_set {first second : Handler}
    (same : first.description = second.description) (attributes : List (Text × Value)) :
    (attributes.foldl (fun handler (name, value) => handler.set name value) first).description =
      (attributes.foldl (fun handler (name, value) => handler.set name value)
        second).description := by
  induction attributes generalizing first second with
  | nil => exact same
  | cons pair rest ih =>
    refine ih ?_
    rw [description_set, same, ← description_set]

end Handler

namespace HandlerPlan

/-- Handlers that are made from like plans have one description. -/
theorem description_eq_of_handler? {plan other : HandlerPlan}
    (same : plan.released = other.released) {name : Text} {stream opened : Option Files.Stream}
    {handler remade : Handler} (first : plan.handler? name stream = some handler)
    (second : other.handler? name opened = some remade) :
    handler.description = remade.description := by
  have attributes_eq : plan.attributes = other.attributes :=
    (congrArg HandlerPlan.attributes same :)
  have sink_eq : plan.making.sink.released = other.making.sink.released :=
    (congrArg (fun plan => plan.making.sink) same :)
  have level_eq : plan.level = other.level := (congrArg HandlerPlan.level same :)
  have layout_eq : plan.layout = other.layout := (congrArg HandlerPlan.layout same :)
  have filters_eq : plan.filters = other.filters := (congrArg HandlerPlan.filters same :)
  unfold handler? at first second
  rw [← attributes_eq] at second
  cases given : plan.attributes with
  | none => simp [given] at first
  | some attributes =>
    simp only [given] at first second
    split at first
    · split at second
      · cases first
        cases second
        refine Handler.description_foldl_set ?_ attributes
        simp [Handler.description, Handler.setup, sink_eq, level_eq, layout_eq, filters_eq]
      · cases second
    · cases first

theorem exists_handler?_of_make {plan : HandlerPlan} {name : Text} {tree after : Files.Tree}
    {handler : Handler} (made : plan.make name tree = (some handler, after)) :
    ∃ stream, plan.handler? name stream = some handler := by
  unfold make at made
  split at made
  · obtain ⟨stream, -, handled⟩ := Option.bind_eq_some_iff.mp (congrArg Prod.fst made)
    exact ⟨_, handled⟩
  · exact ⟨none, congrArg Prod.fst made⟩

end HandlerPlan

/-! ## Handlers that are made in two states -/

theorem State.handler_add (state : State) (handler : Handler) (number : Nat) :
    (state.add handler).2.handler number =
      if number = state.handlers.length then handler else state.handler number := by
  rcases Nat.lt_trichotomy number state.handlers.length with former | rfl | beyond
  · rw [handler_add_of_lt handler former, if_neg (Nat.ne_of_lt former)]
  · rw [handler_add_self, if_pos rfl]
  · rw [if_neg (Nat.ne_of_gt beyond)]
    simp only [State.handler, add]
    rw [List.getElem?_eq_none (by simp; omega), List.getElem?_eq_none (by omega)]

/-- From two numbers on, the handlers of two states are as many and have the same descriptions. -/
structure Mirrors (start other : Nat) (state mirror : State) : Prop where
  size : ∃ count, state.handlers.length = start + count ∧ mirror.handlers.length = other + count
  descriptions : ∀ index,
    (state.handler (start + index)).description = (mirror.handler (other + index)).description

section Mirrors

variable {start other : Nat} {state mirror : State}

theorem Mirrors.add (mirrors : Mirrors start other state mirror) {handler remade : Handler}
    (same : handler.description = remade.description) (tree opened : Files.Tree) :
    Mirrors start other ({ state with tree }.add handler).2
      ({ mirror with tree := opened }.add remade).2 := by
  obtain ⟨count, size, mirror_size⟩ := mirrors.size
  refine ⟨⟨count + 1, ?_, ?_⟩, fun index => ?_⟩
  · simp [size, Nat.add_assoc]
  · simp [mirror_size, Nat.add_assoc]
  · rw [State.handler_add, State.handler_add, size, mirror_size]
    by_cases new : index = count
    · simp [new, same]
    · simp only [Nat.add_left_cancel_iff, new, if_false]
      exact mirrors.descriptions index

/-- What becomes of one handler in two configurations from the same settings. -/
inductive MadeBoth (start other : Nat) (state mirror : State) :
    Except Refusal Known × State → Except Refusal Known × State → Prop
  | made {known : Known} {after mirrored : State} (mirrors : Mirrors start other after mirrored) :
    MadeBoth start other state mirror (.ok (known.renumbered (start + ·)), after)
      (.ok (known.renumbered (other + ·)), mirrored)
  | early : MadeBoth start other state mirror (.error .early, state) (.error .early, mirror)
  | unusable {tried : State} {second : Except Refusal Known × State} :
    MadeBoth start other state mirror (.error .unusable, tried) second
  | mirror_unusable {first : Except Refusal Known × State} {tried : State} :
    MadeBoth start other state mirror first (.error .unusable, tried)

theorem madeBoth_makeHandler (mirrors : Mirrors start other state mirror) (parts : Option Setting)
    (known : Known) (name : Value) :
    MadeBoth start other state mirror
      (makeHandler parts (known.renumbered (start + ·)) state name)
      (makeHandler parts (known.renumbered (other + ·)) mirror name) := by
  have sheet_eq : ∀ f, (known.renumbered f).sheet = known.sheet := fun _ => rfl
  obtain ⟨count, size, mirror_size⟩ := mirrors.size
  unfold makeHandler
  simp only [sheet_eq]
  split
  · rename_i key place part placed found
    cases planned : HandlerPlan.ofSettings known parts part with
    | error refusal =>
      rw [HandlerPlan.ofSettings_renumbered_of_error planned,
        HandlerPlan.ofSettings_renumbered_of_error planned]
      cases refusal with
      | unusable => exact .unusable
      | early => exact .early
    | ok pair =>
      obtain ⟨plan, left⟩ := pair
      obtain ⟨first, first_planned, first_released⟩ :=
        HandlerPlan.exists_ofSettings_renumbered (f := (start + ·)) planned
      obtain ⟨second, second_planned, second_released⟩ :=
        HandlerPlan.exists_ofSettings_renumbered (f := (other + ·)) planned
      rw [first_planned, second_planned]
      dsimp only
      -- Files are opened in two trees, so that one handler may be made without the other.
      split
      · exact .unusable
      · rename_i handler tree made
        split
        · exact .mirror_unusable
        · rename_i remade opened remaking
          obtain ⟨stream, handled⟩ := HandlerPlan.exists_handler?_of_make made
          obtain ⟨reopened, rehandled⟩ := HandlerPlan.exists_handler?_of_make remaking
          have same := HandlerPlan.description_eq_of_handler?
            (first_released.trans second_released.symm) handled rehandled
          have class_eq : remade.sink.className = handler.sink.className := by
            simpa [Handler.description] using
              congrArg (fun handler => handler.sink.className) same.symm
          let next : Known :=
            { known with
              sheet := left.put { value := .thing handler.sink.className, place }
              handlers := known.handlers ++ [(key, count)] }
          have made : MadeBoth start other state mirror (.ok (next.renumbered (start + ·)), _)
              (.ok (next.renumbered (other + ·)), _) :=
            .made (mirrors.add same tree opened)
          simpa [Known.renumbered, next, State.add, size, mirror_size, class_eq] using made
  · exact .unusable

theorem exists_of_map_cons {made : Except Failure (Known × List Value) × State} {name : Value}
    {known : Known} {early : List Value} {after : State}
    (mapped : (made.1.map fun pair => (pair.1, name :: pair.2), made.2) =
      (.ok (known, early), after)) :
    ∃ others, early = name :: others ∧ made = (.ok (known, others), after) := by
  obtain ⟨outcome, tried⟩ := made
  cases outcome with
  | error failure => cases mapped
  | ok pair =>
    cases mapped
    exact ⟨pair.2, rfl, rfl⟩

/-- What is made from settings and what is left for later is the same in both. -/
theorem exists_mirrors_of_makeHandlers {parts : Option Setting} {isLast : Bool} {known : Known}
    {names : List Value} {after mirrored : State} {first second : Known}
    {early laterEarly : List Value} (mirrors : Mirrors start other state mirror)
    (made : makeHandlers parts isLast (known.renumbered (start + ·)) state names =
      (.ok (first, early), after))
    (remade : makeHandlers parts isLast (known.renumbered (other + ·)) mirror names =
      (.ok (second, laterEarly), mirrored)) :
    early = laterEarly ∧ ∃ next : Known, first = next.renumbered (start + ·) ∧
      second = next.renumbered (other + ·) ∧ Mirrors start other after mirrored := by
  induction names generalizing known state mirror early laterEarly with
  | nil =>
    cases made
    cases remade
    exact ⟨rfl, known, rfl, rfl, mirrors⟩
  | cons name rest ih =>
    have both := madeBoth_makeHandler mirrors parts known name
    rw [makeHandlers] at made remade
    generalize makeHandler parts (known.renumbered (start + ·)) state name = done at both made
    generalize makeHandler parts (known.renumbered (other + ·)) mirror name = redone at both remade
    cases both with
    | made next_mirrors => exact ih next_mirrors made remade
    | early =>
      cases isLast with
      | true => simp at made
      | false =>
        simp only [Bool.not_false, and_self, if_true] at made remade
        obtain ⟨others, rfl, rest_made⟩ := exists_of_map_cons made
        obtain ⟨remaining, rfl, rest_remade⟩ := exists_of_map_cons remade
        obtain ⟨rfl, next⟩ := ih mirrors rest_made rest_remade
        exact ⟨rfl, next⟩
    | unusable => simp at made
    | mirror_unusable => simp at remade

theorem exists_of_map_fst {made : Except Failure (Known × List Value) × State} {known : Known}
    {after : State} (mapped : (made.1.map Prod.fst, made.2) = (.ok known, after)) :
    ∃ early, made = (.ok (known, early), after) := by
  obtain ⟨outcome, tried⟩ := made
  cases outcome with
  | error failure => cases mapped
  | ok pair =>
    cases mapped
    exact ⟨pair.2, rfl⟩

/-- The handlers that settings name are alike wherever they are made. -/
theorem exists_mirrors_of_configureHandlers {known first second : Known} {after mirrored : State}
    (blank : known.handlers = [])
    (made : configureHandlers known state = (.ok first, after))
    (remade : configureHandlers known mirror = (.ok second, mirrored)) :
    ∃ next : Known, first = next.renumbered (state.handlers.length + ·) ∧
      second = next.renumbered (mirror.handlers.length + ·) ∧
      Mirrors state.handlers.length mirror.handlers.length after mirrored := by
  have same : ∀ f, known.renumbered f = known := fun f => by
    rw [Known.renumbered, blank, List.map_nil, ← blank]
  have mirrors : Mirrors state.handlers.length mirror.handlers.length state mirror := by
    refine ⟨⟨0, rfl, rfl⟩, fun index => ?_⟩
    simp [State.handler]
  unfold configureHandlers at made remade
  split at made
  · cases made
  · rename_i parts names listed
    rw [listed] at remade
    dsimp only at made remade
    split at made
    · cases made
    · rename_i sorted ascends
      rw [ascends] at remade
      dsimp only at made remade
      split at made
      · cases made
      · rename_i known_made early state_made first_made
        split at remade
        · cases remade
        · rename_i known_remade later state_remade second_made
          rw [← same (state.handlers.length + ·)] at first_made
          rw [← same (mirror.handlers.length + ·)] at second_made
          obtain ⟨rfl, next, rfl, rfl, next_mirrors⟩ :=
            exists_mirrors_of_makeHandlers mirrors first_made second_made
          obtain ⟨left, done⟩ := exists_of_map_fst made
          obtain ⟨remaining, redone⟩ := exists_of_map_fst remade
          exact (exists_mirrors_of_makeHandlers next_mirrors done redone).2

end Mirrors

/-! ## What was there before -/

/-- Handlers were made besides those that were there, and files. -/
structure Extends (state after : State) : Prop where
  loggers : after.loggers = state.loggers
  handlers : state.handlers <+: after.handlers

namespace Extends

variable {state after last : State}

theorem refl (state : State) : Extends state state := ⟨rfl, List.prefix_rfl⟩

theorem trans (first : Extends state after) (second : Extends after last) : Extends state last :=
  ⟨second.loggers.trans first.loggers, first.handlers.trans second.handlers⟩

theorem viewOf (extended : Extends state after) {logger : Logger}
    (there : ∀ number ∈ logger.handlers, number < state.handlers.length) :
    after.viewOf logger = state.viewOf logger := by
  refine State.viewOf_eq_of_former fun number member => ?_
  obtain ⟨added, same⟩ := extended.handlers
  rw [State.handler, ← same, List.getElem?_append_left (there number member)]
  rfl

end Extends

theorem extends_makeHandler (parts : Option Setting) (known : Known) (state : State)
    (name : Value) : Extends state (makeHandler parts known state name).2 := by
  unfold makeHandler
  dsimp only
  split
  · split
    · exact .refl state
    · split
      · exact ⟨rfl, List.prefix_rfl⟩
      · exact ⟨rfl, List.prefix_append ..⟩
  · exact .refl state

theorem extends_makeHandlers (parts : Option Setting) (isLast : Bool) (known : Known)
    (state : State) (names : List Value) :
    Extends state (makeHandlers parts isLast known state names).2 := by
  induction names generalizing known state with
  | nil => exact .refl state
  | cons name rest ih =>
    have first := extends_makeHandler parts known state name
    rw [makeHandlers]
    split <;> rename_i done <;> rw [done] at first
    · exact first.trans (ih ..)
    · split
      · exact first.trans (ih ..)
      · exact first

theorem extends_configureHandlers (known : Known) (state : State) :
    Extends state (configureHandlers known state).2 := by
  unfold configureHandlers
  split
  · exact .refl state
  · rename_i parts names _
    split
    · exact .refl state
    · rename_i sorted _
      have first := extends_makeHandlers parts false known state (sorted.map Prod.fst)
      split <;> rename_i done <;> rw [done] at first
      · exact first
      · exact first.trans (extends_makeHandlers ..)

end Logging
end PackageRepos
