import PackageRepos.Logging.Configuration.HandlerClass
import PackageRepos.Logging.Configuration.Sheet
import PackageRepos.Logging.Delivery

/-!
# Handlers from settings

Handlers are made one after the other, in the order of their names; one that hands events on to a
handler that is not made yet is left for later. A file is made at once, so that a handler which
then turns out to be unusable leaves its file behind. A handler uses its settings up: no other one
can be made from them.
-/

namespace PackageRepos
namespace Logging

/-- The parts that settings have named so far. -/
structure Known where
  /-- The settings that are left. -/
  sheet : Sheet
  layouts : List (Text × Layout) := []
  filters : List (Text × Filter) := []
  /-- The numbers of the handlers. -/
  handlers : List (Text × Nat) := []

/-- Why no handler is made. -/
inductive Refusal where
  | unusable
  /-- A handler that is needed is not made yet. -/
  | early
deriving DecidableEq, Repr

/-- What a handler is made from. -/
structure HandlerPlan where
  making : Making
  layout : Option Layout
  level : Level
  /-- The level is one. -/
  hasLevel : Bool
  filters : List Filter
  /-- All filters are known. -/
  hasFilters : Bool
  /-- Attributes to be set in the end, if they can be. -/
  attributes : Option (List (Text × Value))

namespace HandlerPlan

/-- Something that must be there. -/
def need {α : Type} (wanted : Option α) : Except Refusal α :=
  match wanted with
  | some found => .ok found
  | none => .error .unusable

/-- What names stand for, as far as they are known, and whether all of them are. -/
def lookUp {α : Type} (known : List (Text × α)) : List Value → List α × Bool
  | [] => ([], true)
  | .text name :: rest =>
    match known.lookup name with
    | some found =>
      let (others, isComplete) := lookUp known rest
      (found :: others, isComplete)
    | none => ([], false)
  | _ :: _ => ([], false)

/-- What a setting names, as far as it is known, and whether all of it is. A setting that does not
count as true names nothing. -/
def lookUpAll {α : Type} (known : List (Text × α)) (setting : Option Value) : List α × Bool :=
  match setting.filter Value.isTrue with
  | none => ([], true)
  | some names =>
    match Sheet.namesOf (some names) with
    | .ok names => lookUp known names
    | .error _ => ([], false)

/-- The layout that a setting chooses, if it chooses one that is known. -/
def chooseLayout? (known : Known) (setting : Option Value) : Option (Option Layout) :=
  match setting.filter Value.isTrue with
  | none => some none
  | some (.text name) => (known.layouts.lookup name).map some
  | some _ => none

/-- The handler that a name stands for, which may be listed to be made later. -/
def namedRecipient (known : Known) (parts : Option Setting) (name : Value) :
    Except Refusal Recipient :=
  match parts, (Sheet.placeOf? parts name).bind known.sheet.part? with
  | some parts, some setting =>
    match known.handlers.find? fun made => parts.place ++ [.name made.1] == setting.place with
    | some made => .ok (.handler made.2)
    | none => .error .early
  | _, _ => .error .unusable

/-- What a handler hands held events on to: the handler that its settings name, or, where it has a
maker of its own, the setting as it is. -/
def chooseRecipient (known : Known) (parts : Option Setting) (isMade : Bool)
    (target : Option Value) : Except Refusal Recipient :=
  match target with
  | none => .ok .nobody
  | some target =>
    if isMade then .ok (if target.isTrue then .other (settingKind target) else .nobody)
    else namedRecipient known parts target

/-- Takes the class out of the settings of a handler. -/
def takeClass? (sheet : Sheet) (part : Setting) : Option (HandlerClass × Sheet × Setting) := do
  let (path, left) ←
    if Sheet.hasMaker part then sheet.takeMaker? part
    else
      match ← sheet.take? part "class" with
      | (some (.text path), left) => some (path, left)
      | _ => none
  (HandlerClass.ofPath? path).map fun handlerClass => (handlerClass, left)

/-- What a handler is made from by its settings, and the sheet that is left. -/
def ofSettings (known : Known) (parts : Option Setting) (part : Setting) :
    Except Refusal (HandlerPlan × Sheet) := do
  let (formatter, sheet, part) ← need (known.sheet.take? part "formatter")
  let layout ← need (chooseLayout? known formatter)
  let (level, sheet, part) ← need (sheet.take? part "level")
  let (filterNames, sheet, part) ← need (sheet.take? part "filters")
  let isMade := Sheet.hasMaker part
  let (handlerClass, sheet, part) ← need (takeClass? sheet part)
  let target ← need (sheet.setting? part "target")
  let recipient ← chooseRecipient { known with sheet } parts isMade
    (target.filter fun _ => handlerClass = .memory)
  let arguments ← need (sheet.arguments? part)
  let making ← need (Making.ofArguments? handlerClass arguments recipient)
  let left := ((sheet.take? part Sheet.attributesKey).map fun taken => taken.2.1).getD sheet
  let given := level.filter Making.isGiven
  let (filters, hasFilters) := lookUpAll known.filters filterNames
  let chosen := given.bind Level.ofValue?
  let plan : HandlerPlan :=
    { making, layout, filters, hasFilters
      level := chosen.getD .unset
      hasLevel := given.isNone || chosen.isSome
      attributes := (sheet.attributes? part).join }
  .ok (plan, left)

/-- The handler that is made, with its file, if it is opened at once. -/
def handler? (plan : HandlerPlan) (name : Text) (stream : Option Files.Stream) : Option Handler :=
  match plan.attributes with
  | some attributes =>
    let handler : Handler :=
      { sink := plan.making.sink, level := plan.level.toValue, layout := plan.layout,
        filters := plan.filters, name := if name.isEmpty then none else some name,
        stream, isNoted := stream.isSome }
    if plan.making.isSound && plan.hasLevel && plan.hasFilters then
      some (attributes.foldl (fun handler (name, value) => handler.set name value) handler)
    else none
  | none => none

/-- Makes a handler. The tree is changed even when the handler turns out to be unusable. -/
def make (plan : HandlerPlan) (name : Text) (tree : Files.Tree) : Option Handler × Files.Tree :=
  match plan.making.opening with
  | some log =>
    let (outcome, opened) := log.openIn tree
    (outcome.toOption.bind fun stream => plan.handler? name (some stream), opened)
  | none => (plan.handler? name none, tree)

end HandlerPlan

/-- A configuration under way: the parts that are known, and the state so far. -/
abbrev Progress := Except Failure Known × State

/-- Makes a handler, or tells why it is not made. What is made takes the place of its settings. -/
def makeHandler (parts : Option Setting) (known : Known) (state : State) (name : Value) :
    Except Refusal Known × State :=
  let place? := Sheet.placeOf? parts name
  match name, place?, place?.bind known.sheet.part? with
  | .text key, some place, some part =>
    match HandlerPlan.ofSettings known parts part with
    | .error refusal => (.error refusal, state)
    | .ok (plan, left) =>
      match plan.make key state.tree with
      | (none, tree) => (.error .unusable, { state with tree })
      | (some handler, tree) =>
        let (number, added) := { state with tree }.add handler
        let sheet := left.put { value := .thing handler.sink.className, place }
        (.ok { known with sheet, handlers := known.handlers ++ [(key, number)] }, added)
  | _, _, _ => (.error .unusable, state)

/-- Makes handlers one after the other. Those that come too early are listed, unless it is their
last chance. -/
def makeHandlers (parts : Option Setting) (isLast : Bool) (known : Known) (state : State) :
    List Value → Except Failure (Known × List Value) × State
  | [] => (.ok (known, []), state)
  | name :: rest =>
    match makeHandler parts known state name with
    | (.ok known, made) => makeHandlers parts isLast known made rest
    | (.error refusal, tried) =>
      if refusal = .early ∧ !isLast then
        let (outcome, after) := makeHandlers parts isLast known tried rest
        (outcome.map fun (known, early) => (known, name :: early), after)
      else (.error (.logging (.unusablePart .handler name)), tried)

/-- Makes all handlers that settings name. -/
def configureHandlers (known : Known) (state : State) : Progress :=
  match known.sheet.fieldOfParts "handlers" with
  | .error failure => (.error failure, state)
  | .ok (parts, names) =>
    match Value.ascending (names.map fun name => (name, ())) with
    | .error fault => (.error (.argument fault), state)
    | .ok sorted =>
      match makeHandlers parts false known state (sorted.map Prod.fst) with
      | (.error failure, made) => (.error failure, made)
      | (.ok (known, early), made) =>
        let (outcome, complete) := makeHandlers parts true known made early
        (outcome.map Prod.fst, complete)

end Logging
end PackageRepos
