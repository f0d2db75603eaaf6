import PackageRepos.Logging.Configuration.Handlers

/-!
# Configuring loggers from settings

The parts of settings are taken one after the other, formatters and filters before handlers and
handlers before loggers, so that settings which turn out to be unusable may have taken effect in
part. All handlers of former settings retire first; loggers that the settings do not name are
disabled, if the settings ask for that. Settings that only add to former ones change levels and
nothing else.
-/

namespace PackageRepos
namespace Logging

/-- The one version of logging settings that is understood, however it is written. -/
def isSupported (version : Value) : Bool := (Value.int 1).same version

/-- Makes parts of a kind one after the other. What is made takes the place of its settings. -/
def makeParts {α : Type} (kind : PartKind) (className : String)
    (make : Sheet → Setting → Option (α × Sheet)) (parts : Option Setting) (sheet : Sheet) :
    List Value → Except Failure (List (Text × α) × Sheet)
  | [] => .ok ([], sheet)
  | name :: rest =>
    let made := do
      let place ← Sheet.placeOf? parts name
      let part ← sheet.part? place
      let (made, left) ← make sheet part
      some (made, left.put { value := .thing className, place })
    match made with
    | none => .error (.logging (.unusablePart kind name))
    | some (part, left) => do
      let (others, left) ← makeParts kind className make parts left rest
      match name with
      | .text name => .ok ((name, part) :: others, left)
      | _ => .ok (others, left)

/-- Makes the layouts and the filters that settings name. -/
def knownOf (sheet : Sheet) : Except Failure Known := do
  let (parts, names) ← sheet.fieldOfParts "formatters"
  let (layouts, sheet) ← makeParts .formatter "Formatter" layoutOf? parts sheet names
  let (parts, names) ← sheet.fieldOfParts "filters"
  let (filters, sheet) ← makeParts .filter "Filter" filterOf? parts sheet names
  .ok { sheet, layouts, filters }

/-! ## Loggers -/

/-- Sets the level of a logger; the first result says whether the level is one. -/
def chooseLevel (logger : Logger) (level : Option Value) : Bool × Logger :=
  match level.filter Making.isGiven with
  | none => (true, logger)
  | some level =>
    match Level.ofValue? level with
    | some level => (true, { logger with level })
    | none => (false, logger)

/-- Configures what all loggers have: the level, the handlers, in place of all former ones, and
filters. The first result says whether the settings are usable. -/
def configureCommon (known : Known) (part : Setting) (logger : Logger) : Bool × Logger :=
  match known.sheet.setting? part "level" with
  | none => (false, logger)
  | some level =>
    match chooseLevel logger level with
    | (false, leveled) => (false, leveled)
    | (true, leveled) =>
      let cleared := { leveled with handlers := [] }
      match known.sheet.setting? part "handlers" with
      | none => (false, cleared)
      | some names =>
        let (handlers, hasHandlers) := HandlerPlan.lookUpAll known.handlers names
        let handled := { cleared with handlers := handlers.eraseDups }
        match hasHandlers, known.sheet.setting? part "filters" with
        | true, some names =>
          let (filters, hasFilters) := HandlerPlan.lookUpAll known.filters names
          (hasFilters, { handled with filters := handled.filters ++ filters })
        | _, _ => (false, handled)

/-- Lets a logger take part again, and sets where its events go on to. -/
def configureOutlet (sheet : Sheet) (part : Setting) (logger : Logger) : Bool × Logger :=
  let enabled := { logger with isDisabled := false }
  match sheet.setting? part "propagate" with
  | none => (false, enabled)
  | some propagate =>
    match propagate.filter Making.isGiven with
    | none => (true, enabled)
    | some propagate => (true, { enabled with propagate })

/-- Configures what all loggers have, by the settings of a logger. -/
abbrev Common := Setting → Logger → Bool × Logger

/-- Configures a logger with a name. The first result says whether the settings are usable. -/
def configureLogger (common : Common) (sheet : Sheet) (part : Setting) (logger : Logger) :
    Bool × Logger :=
  match part.value with
  | .mapping _ =>
    match common part logger with
    | (true, configured) => configureOutlet sheet part configured
    | (false, configured) => (false, configured)
  | _ => (false, logger)

/-- Configures loggers one after the other. -/
def configureLoggers (common : Common) (sheet : Sheet) (parts : Option Setting)
    (loggers : Loggers) : List Value → Except Failure Unit × Loggers
  | [] => (.ok (), loggers)
  | name :: rest =>
    let failed := .error (.logging (.unusablePart .logger name))
    match name, (Sheet.placeOf? parts name).bind sheet.part? with
    | .text key, some part =>
      let (isUsable, logger) := configureLogger common sheet part (loggers.get key)
      let changed := loggers.set key logger
      if isUsable then configureLoggers common sheet parts changed rest else (failed, changed)
    | _, _ => (failed, loggers)

/-- Configures the loggers that settings name. -/
def configureNamed (common : Common) (sheet : Sheet) (loggers : Loggers) :
    Except Failure (List Value) × Loggers :=
  match sheet.fieldOfParts "loggers" with
  | .error failure => (.error failure, loggers)
  | .ok (parts, names) =>
    let (outcome, configured) := configureLoggers common sheet parts loggers names
    (outcome.map fun _ => names, configured)

/-- Configures the root, where settings for it are given. -/
def configureRoot (common : Common) (sheet : Sheet) (loggers : Loggers) :
    Except Failure Unit × Loggers :=
  match sheet.field "root" with
  | .error failure => (.error failure, loggers)
  | .ok none => (.ok (), loggers)
  | .ok (some part) =>
    let failed := .error (.logging .unusableRoot)
    match part.value with
    | .mapping (_ :: _) =>
      let (isUsable, root) := common part loggers.root
      (if isUsable then .ok () else failed, { loggers with root })
    | value => (if value.isTrue then failed else .ok (), loggers)

/-- A logger is below another one by their names. -/
def isBelow (name above : Text) : Bool := (above ++ ['.']).isPrefixOf name

/-- The loggers that were there before, and that the settings do not name: those below one that is
named start anew, and the others are disabled or not. -/
def settleOthers (isDisabled : Bool) (before : Loggers) (names : List Value)
    (loggers : Loggers) : Loggers :=
  let existing := before.named.keys
  let places := existing ++ existing.flatMap Loggers.namesAbove
  let chosen := names.filterMap fun
    | .text name => some name
    | _ => none
  let leading := chosen.filter places.contains
  let settled := fun (name : Text) (logger : Logger) =>
    if !existing.contains name || chosen.contains name then logger
    else if leading.any fun above => isBelow name above then
      { logger with level := .unset, handlers := [], propagate := .bool true }
    else { logger with isDisabled }
  { loggers with named := loggers.named.mapEntries settled }

/-! ## All settings -/

/-- Configures loggers, and the root at last. -/
def configureAllLoggers (known : Known) (isDisabled : Bool) (loggers : Loggers) :
    Except Failure Unit × Loggers :=
  let common := configureCommon known
  match configureNamed common known.sheet loggers with
  | (.error failure, configured) => (.error failure, configured)
  | (.ok names, configured) =>
    configureRoot common known.sheet (settleOthers isDisabled loggers names configured)

/-- Configures all parts anew. -/
def configureAnew (sheet : Sheet) (state : State) : Act :=
  match sheet.takeField "disable_existing_loggers" with
  | .error failure => (.error failure, state)
  | .ok (disabling, left) =>
    match state.retireAll with
    | (.error failure, retired) => (.error failure, retired)
    | (.ok (), retired) =>
      match knownOf left with
      | .error failure => (.error failure, retired)
      | .ok known =>
        match configureHandlers known retired with
        | (.error failure, made) => (.error failure, made)
        | (.ok known, made) =>
          let isDisabled := (disabling.map Value.isTrue).getD true
          let (outcome, loggers) := configureAllLoggers known isDisabled made.loggers
          (outcome, { made with loggers })

/-- Changes the level of a handler that is there. -/
def adjustHandler (sheet : Sheet) (parts : Option Setting) (state : State) (name : Value) : Act :=
  let number? := match name with
    | .text key => state.named? key
    | _ => none
  match name.unkeyable?, number? with
  | some kind, _ => (.error (.argument (.unkeyable kind)), state)
  | none, none => (.error (.logging (.noHandler name)), state)
  | none, some number =>
    let failed := .error (.logging (.unusablePart .handler name))
    match (Sheet.placeOf? parts name).bind sheet.part? with
    | some { value := .mapping entries, place } =>
      match sheet.setting? { value := .mapping entries, place } "level" with
      | none => (failed, state)
      | some level =>
        match level.filter Value.isTrue with
        | none => (.ok (), state)
        | some level =>
          match Level.ofValue? level with
          | some level =>
            (.ok (), state.change number fun handler => { handler with level := level.toValue })
          | none => (failed, state)
    | _ => (failed, state)

/-- Sets the level of a logger, and nothing else of what all loggers have. -/
def adjustCommon (sheet : Sheet) (part : Setting) (logger : Logger) : Bool × Logger :=
  match sheet.setting? part "level" with
  | none => (false, logger)
  | some level => chooseLevel logger level

/-- Adds settings to former ones. -/
def adjust (sheet : Sheet) (state : State) : Act :=
  match sheet.fieldOfParts "handlers" with
  | .error failure => (.error failure, state)
  | .ok (parts, names) =>
    match State.forEach (adjustHandler sheet parts) state names with
    | (.error failure, adjusted) => (.error failure, adjusted)
    | (.ok (), adjusted) =>
      let common := adjustCommon sheet
      match configureNamed common sheet adjusted.loggers with
      | (.error failure, loggers) => (.error failure, { adjusted with loggers })
      | (.ok _, loggers) =>
        let (outcome, loggers) := configureRoot common sheet loggers
        (outcome, { adjusted with loggers })

/-- Configures all loggers that the settings name. Settings of an unknown version change
nothing. -/
def configure (state : State) (sheet : Sheet) : Act :=
  match sheet.field "version" with
  | .error failure => (.error failure, state)
  | .ok version =>
    let version := (version.map (·.value)).getD .absent
    if !isSupported version then (.error (.logging (.unsupportedVersion version)), state)
    else
      match sheet.takeField "incremental" with
      | .error failure => (.error failure, state)
      | .ok (incremental, left) =>
        if (incremental.map Value.isTrue).getD false then adjust left state
        else configureAnew left state

end Logging
end PackageRepos
