import PackageRepos.Proofs.Logging.Debugging
import PackageRepos.Proofs.Settings.Overriding

/-!
# Logging after it was set up

Setting up logging comes off when the settings for handlers can be given the path of the log file,
or have no use for it. Then logging is configured from the user's settings, or with a console where
these are unusable, and after that loggers are switched to debugging. Settings for handlers that
contain a file but cannot be given a path make the setup fail, because they are looked at before
anything is tried.
-/

namespace PackageRepos

theorem Text.occursIn_iff {part text : Text} : Text.occursIn part text ↔ part <:+: text := by
  induction text with
  | nil => simp [occursIn]
  | cons char rest ih => simp [occursIn, ih, List.infix_cons_iff]

namespace Logging
namespace Host

/-- The settings for handlers can be given the path of the log file, or have no file handler. -/
inductive TakesLogFile : Value → Prop
  | mapping {entries : List (Text × Value)}
      (file : ∀ value, entries.lookup (Text.of "file") = some value →
        ∃ settings, value = .mapping settings) : TakesLogFile (.mapping entries)
  | list {items : List Value} (unlisted : .text (Text.of "file") ∉ items) :
    TakesLogFile (.list items)
  | tuple {items : List Value} (unlisted : .text (Text.of "file") ∉ items) :
    TakesLogFile (.tuple items)
  | text {text : Text} (absent : ¬ Text.of "file" <:+: text) : TakesLogFile (.text text)

/-- The settings have a version that counts as true. -/
def IsVersioned (settings : Sheet) : Prop :=
  ((settings.get? (Text.of "version")).getD .absent).isTrue

instance (settings : Sheet) : Decidable (IsVersioned settings) :=
  inferInstanceAs (Decidable (_ = true))

/-- The settings, if they are used at all, can be given the path of the log file. -/
def IsDirectable (settings : Sheet) : Prop :=
  IsVersioned settings → ∀ handlers, settings.get? (Text.of "handlers") = some handlers →
    TakesLogFile handlers

/-- Logging was configured from settings, or with a console where the settings have no version or
turn out to be wrong. -/
inductive Configured (state : State) (settings : Sheet) (path : Text) : State → Prop
  | merged {directed : Sheet} {after : State} (versioned : IsVersioned settings)
      (directs : directSettings settings path = .ok directed)
      (done : configure state directed = (.ok (), after)) : Configured state settings path after
  | standIn {directed : Sheet} {failure : Failure} {tried retired : State}
      (versioned : IsVersioned settings) (directs : directSettings settings path = .ok directed)
      (wrong : configure state directed = (.error failure, tried))
      (done : configure tried consoleSheet = (.ok (), retired.withConsole)) :
    Configured state settings path retired.withConsole
  | unversioned {retired : State} (unversioned : ¬ IsVersioned settings)
      (done : configure state consoleSheet = (.ok (), retired.withConsole)) :
    Configured state settings path retired.withConsole

/-- Configuring from settings tells what is wrong with them as a mistake, and uses only handlers
that do not fail. -/
structure IsReported (state : State) (settings : Sheet) : Prop where
  mistake : ∀ failure, (configure state settings).1 = .error failure → failure.isMistake
  steady : (configure state settings).2.IsSteady
  lasting : ∀ failure, (configure state settings).1 = .error failure →
    (configure state settings).2.ReopensNothing

variable {host prepared : Host} {state : State} {settings : Sheet} {path : Text}

/-! ## The path of the log file -/

theorem any_isFileWord_iff {items : List Value} :
    items.any holdsFileHandler.isFileWord ↔ .text (Text.of "file") ∈ items := by
  rw [List.any_eq_true]
  constructor
  · rintro ⟨item, member, isWord⟩
    cases item <;> simp_all [holdsFileHandler.isFileWord]
  · exact fun member => ⟨_, member, by simp [holdsFileHandler.isFileWord]⟩

theorem exists_directFile_iff {entries : List (Text × Value)} {value : Value}
    (file : entries.lookup (Text.of "file") = some value) (path : Text) :
    (∃ directed, directFile (.mapping entries) path = .ok directed) ↔
      ∃ settings, value = .mapping settings := by
  cases value <;> simp [directFile, file]

theorem takesLogFile_mapping {entries : List (Text × Value)} :
    TakesLogFile (.mapping entries) ↔
      ∀ value, entries.lookup (Text.of "file") = some value →
        ∃ settings, value = .mapping settings :=
  ⟨fun | .mapping file => file, .mapping⟩

theorem takesLogFile_list {items : List Value} :
    TakesLogFile (.list items) ↔ items.any holdsFileHandler.isFileWord = false := by
  rw [← Bool.not_eq_true, any_isFileWord_iff]
  exact ⟨fun | .list unlisted => unlisted, .list⟩

theorem takesLogFile_tuple {items : List Value} :
    TakesLogFile (.tuple items) ↔ items.any holdsFileHandler.isFileWord = false := by
  rw [← Bool.not_eq_true, any_isFileWord_iff]
  exact ⟨fun | .tuple unlisted => unlisted, .tuple⟩

theorem takesLogFile_text {text : Text} :
    TakesLogFile (.text text) ↔ Text.occursIn (Text.of "file") text = false := by
  rw [← Bool.not_eq_true, Text.occursIn_iff]
  exact ⟨fun | .text absent => absent, .text⟩

/-- Settings can be given the path of the log file exactly when their handlers can. -/
theorem exists_directSettings_iff (settings : Sheet) (path : Text) :
    (∃ directed, directSettings settings path = .ok directed) ↔
      ∀ handlers, settings.get? (Text.of "handlers") = some handlers → TakesLogFile handlers := by
  unfold directSettings
  dsimp only
  cases settings.get? (Text.of "handlers") with
  | none => simp
  | some handlers =>
    simp only [Option.some.injEq, forall_eq']
    cases handlers with
    | mapping entries =>
      rw [takesLogFile_mapping]
      cases file : entries.lookup (Text.of "file") with
      | none => simp [holdsFileHandler, file]
      | some value =>
        have holds : holdsFileHandler (.mapping entries) = .ok true := by
          simp [holdsFileHandler, file]
        simp only [holds, Option.some.injEq, forall_eq', ← exists_directFile_iff file path]
        cases directFile (.mapping entries) path <;> simp [Except.map]
    | list items =>
      rw [takesLogFile_list]
      cases listed : items.any holdsFileHandler.isFileWord <;>
        simp [holdsFileHandler, listed, directFile, Except.map]
    | tuple items =>
      rw [takesLogFile_tuple]
      cases listed : items.any holdsFileHandler.isFileWord <;>
        simp [holdsFileHandler, listed, directFile, Except.map]
    | text text =>
      rw [takesLogFile_text]
      cases occurs : Text.occursIn (Text.of "file") text <;>
        simp [holdsFileHandler, occurs, directFile, Except.map]
    | _ => exact iff_of_false (by simp [holdsFileHandler]) nofun

/-! ## The steps of setting up -/

/-- In a steady state the settings are taken as they are loaded. -/
theorem obtainSettings_spec (host : Host) (steady : host.state.IsSteady)
    (fresh : host.settings.current = none) {all : Settings}
    (loaded : (Settings.load host.source).1 = .ok all) :
    ∃ state journal settings,
      host.obtainSettings =
        (.ok (all.sectionOf "logging"), { host with state, journal, settings }) ∧
      host.state.Keeps state := by
  cases load_eq : Settings.load host.source with
  | mk outcome events =>
    rw [load_eq] at loaded
    cases loaded
    obtain ⟨settings, obtained⟩ : ∃ settings, host.settings.obtain host.source =
        ((.ok all, events), settings) := by
      simp only [Settings.Cache.obtain, fresh, load_eq]
      exact ⟨_, rfl⟩
    obtain ⟨state, journal, recorded, keeps⟩ :=
      recordAll_spec { host with settings } steady events
    refine ⟨state, journal, settings, ?_, keeps⟩
    simp only [obtainSettings, obtained, recorded]
    rfl

/-- Settings that can be used are applied, and told of. -/
theorem exists_applySettings {directed : Sheet} {base : State}
    (done : configure host.state directed = (.ok (), base)) (steady : base.IsSteady) :
    ∃ state journal, host.applySettings directed = (.ok (), { host with state, journal }) ∧
      base.Keeps state := by
  obtain ⟨state, journal, recorded, keeps⟩ :=
    record_spec { host with state := base } steady .loggingReady
  refine ⟨state, journal, ?_, keeps⟩
  simp only [applySettings, trySettings, act, done, recorded]

/-- A console stands in for settings that are wrong. -/
theorem exists_applySettings_of_isMistake {directed : Sheet} {failure : Failure}
    {tried base : State} (wrong : configure host.state directed = (.error failure, tried))
    (mistake : failure.isMistake = true) (done : configure tried consoleSheet = (.ok (), base))
    (steady : base.IsSteady) :
    ∃ state journal, host.applySettings directed = (.ok (), { host with state, journal }) ∧
      base.Keeps state := by
  obtain ⟨state, journal, recorded, keeps⟩ :=
    record_spec { host with state := base } steady (.loggingInvalid failure.message)
  refine ⟨state, journal, ?_, keeps⟩
  simp only [applySettings, trySettings, act, wrong, mistake, if_true, useConsole, done, recorded]

/-- Settings that are not wrong, or only wrong in themselves, are applied. -/
theorem applySettings_spec {directed : Sheet} (versioned : IsVersioned settings)
    (directs : directSettings settings path = .ok directed)
    (reported : IsReported host.state directed) :
    ∃ base state journal, host.applySettings directed = (.ok (), { host with state, journal }) ∧
      Configured host.state settings path base ∧ base.Keeps state ∧ base.IsSteady := by
  obtain ⟨mistake, kept, lasting⟩ := reported
  cases configured : configure host.state directed with
  | mk outcome tried =>
    rw [configured] at mistake kept lasting
    cases outcome with
    | ok _ =>
      obtain ⟨state, journal, applied, keeps⟩ := exists_applySettings configured kept
      exact ⟨tried, state, journal, applied, .merged versioned directs configured, keeps, kept⟩
    | error failure =>
      obtain ⟨retired, done, retires⟩ := kept.retireAll
      have consoled := State.configure_consoleSheet done
      have steady := kept.withConsole (lasting failure rfl) retires
      obtain ⟨state, journal, applied, keeps⟩ :=
        exists_applySettings_of_isMistake configured (mistake failure rfl) consoled steady
      exact ⟨retired.withConsole, state, journal, applied,
        .standIn versioned directs configured consoled, keeps, steady⟩

theorem chooseSettings_of_isVersioned (host : Host) (path : Text)
    (versioned : IsVersioned settings) :
    host.chooseSettings settings path =
      match directSettings settings path with
      | .error fault => (.error (.argument fault), host)
      | .ok directed => host.applySettings directed :=
  if_pos versioned

/-- Settings that can be given the path of the log file are applied, or a console is used. -/
theorem chooseSettings_spec (steady : host.state.IsSteady) (lasting : host.state.ReopensNothing)
    (directable : IsDirectable settings)
    (reported : ∀ directed, IsVersioned settings →
      directSettings settings path = .ok directed → IsReported host.state directed) :
    ∃ base state journal,
      host.chooseSettings settings path = (.ok (), { host with state, journal }) ∧
        Configured host.state settings path base ∧ base.Keeps state ∧ base.IsSteady := by
  by_cases versioned : IsVersioned settings
  · obtain ⟨directed, directs⟩ :=
      (exists_directSettings_iff settings path).mpr (directable versioned)
    obtain ⟨base, state, journal, applied, configured⟩ :=
      applySettings_spec versioned directs (reported directed versioned directs)
    refine ⟨base, state, journal, ?_, configured⟩
    rw [chooseSettings_of_isVersioned host path versioned, directs]
    exact applied
  · obtain ⟨retired, done, retires⟩ := steady.retireAll
    have consoled := State.configure_consoleSheet done
    refine ⟨retired.withConsole, retired.withConsole, host.journal, ?_,
      .unversioned versioned consoled, .refl _, steady.withConsole lasting retires⟩
    refine (if_neg versioned).trans ?_
    simp only [useConsole, act, consoled]

theorem chooseSettings_of_not_isDirectable (host : Host) (path : Text)
    (misdirected : ¬ IsDirectable settings) :
    ∃ fault, host.chooseSettings settings path = (.error (.argument fault), host) := by
  obtain ⟨versioned, unfit⟩ : IsVersioned settings ∧
      ¬ ∀ handlers, settings.get? (Text.of "handlers") = some handlers → TakesLogFile handlers := by
    simpa only [IsDirectable, Classical.not_imp] using misdirected
  rw [← exists_directSettings_iff settings path] at unfit
  rw [chooseSettings_of_isVersioned host path versioned]
  cases directs : directSettings settings path with
  | error fault => exact ⟨fault, rfl⟩
  | ok directed => exact absurd ⟨directed, directs⟩ unfit

/-! ## Setting up -/

/-- The path of the log file. -/
def logPath (host : Host) : Text :=
  Files.Path.entryText host.logDirectory (Text.of "repoconf.log")

/-- The packaged logging settings with the entries of a user. -/
def mergedSettings (entries : List (Text × Value)) : Sheet :=
  (Settings.entriesOf Settings.loggingEntries).insertAll entries

/-- The settings of a user that can be loaded override what is packaged for logging. -/
theorem exists_load_logging {source : Settings.Source} {entries : List (Text × Value)}
    (usual : source.filenames = Settings.defaultFilenames) (reads : source.parser.ReadsPackaged)
    (document : source.document? (Text.of "logging.yml") = some (.mapping entries))
    (spared : source.Spares (Text.of "repoconf.yml")
      (Settings.entriesOf Settings.repositoryEntries)) :
    ∃ all, (Settings.load source).1 = .ok all ∧
      all.sectionOf "logging" = mergedSettings entries := by
  obtain ⟨all, loaded, found⟩ := Settings.exists_load_of_mapping
    (Settings.isPackaged_of_default usual reads)
    (usual ▸ Settings.get?_defaultFilenames_logging) (Settings.Source.packaged?_logging reads)
    document fun other file more different named isPackaged => by
      rw [usual] at named
      obtain ⟨-, rfl⟩ | ⟨-, rfl⟩ := Settings.eq_of_get?_defaultFilenames named
      · exact absurd rfl different
      · cases (Settings.Source.packaged?_repositories reads).symm.trans isPackaged
        exact spared
  refine ⟨all, loaded, ?_⟩
  rw [Settings.sectionOf, found, Option.getD_some, mergedSettings]

/-- Making the directory changes nothing but the tree. -/
theorem eq_of_prepareDirectory (made : host.prepareDirectory = (.ok (), prepared)) :
    ∃ tree, prepared = { host with state := { host.state with tree } } := by
  unfold prepareDirectory at made
  exact ⟨_, (congrArg Prod.snd made).symm⟩

/-- Setting up, once it is known which settings are obtained. -/
theorem setup_of_obtainSettings {informed : Host}
    (made : host.prepareDirectory = (.ok (), prepared))
    (obtained : prepared.obtainSettings = (.ok settings, informed)) :
    host.setup =
      match informed.chooseSettings settings host.logPath with
      | (.ok (), configured) => configured.debugLoggers (debugTargets configured.environment)
      | failed => failed := by
  simp only [setup, made, obtained]
  rfl

/-- When the directory of the log file can be made and the user's settings for logging are a
mapping, setting up logging comes off exactly when these settings, as far as they are used, can be
given the path of the log file. Then logging was configured from them, or with a console where they
are unusable, and loggers were switched to debugging after that. In any case all handlers that are
in use take every event afterwards. -/
theorem setup_usable {entries : List (Text × Value)}
    (usual : host.filenames = Settings.defaultFilenames) (reads : host.parser.ReadsPackaged)
    (fresh : host.settings.current = none)
    (steady : host.state.IsSteady) (lasting : host.state.ReopensNothing)
    (made : host.prepareDirectory = (.ok (), prepared))
    (document : prepared.source.document? (Text.of "logging.yml") = some (.mapping entries))
    (spared : prepared.source.Spares (Text.of "repoconf.yml")
      (Settings.entriesOf Settings.repositoryEntries))
    (reported : ∀ directed, IsVersioned (mergedSettings entries) →
      directSettings (mergedSettings entries) host.logPath = .ok directed →
        IsReported prepared.obtainSettings.2.state directed) :
    (host.setup.1 = .ok () ↔ IsDirectable (mergedSettings entries)) ∧
      (host.setup.1 = .ok () → ∃ base,
        Configured prepared.obtainSettings.2.state (mergedSettings entries) host.logPath base ∧
          Debugged (debugTargets host.environment) base host.setup.2.state) ∧
      host.setup.2.state.IsSteady := by
  obtain ⟨tree, rfl⟩ := eq_of_prepareDirectory made
  let planted : Host := { host with state := { host.state with tree } }
  have plants : host.state.Keeps planted.state := (State.Keeps.refl _).withTree tree
  obtain ⟨all, loaded, merged⟩ := exists_load_logging usual reads document spared
  obtain ⟨state, journal, cache, obtained, keeps⟩ :=
    obtainSettings_spec planted (steady.keep plants) fresh loaded
  rw [merged] at obtained
  have setup_eq := setup_of_obtainSettings made obtained
  rw [obtained] at reported ⊢
  have informed := steady.keep (plants.trans keeps)
  by_cases directable : IsDirectable (mergedSettings entries)
  · obtain ⟨base, next, journalled, chosen, configured, kept, base_steady⟩ :=
      chooseSettings_spec informed (lasting.keep (plants.trans keeps)) directable reported
    obtain ⟨last, finished, switched, last_steady, debugged⟩ := debugLoggers_spec
      { host with state := next, journal := journalled, settings := cache }
      (base_steady.keep kept) (debugTargets host.environment)
    rw [chosen] at setup_eq
    rw [setup_eq.trans switched]
    exact ⟨iff_of_true rfl directable, fun _ => ⟨base, configured, debugged.of_keeps kept⟩,
      last_steady⟩
  · obtain ⟨fault, failed⟩ := chooseSettings_of_not_isDirectable
      { host with state, journal, settings := cache } host.logPath directable
    rw [failed] at setup_eq
    rw [setup_eq]
    exact ⟨iff_of_false nofun directable, nofun, informed⟩

/-! ## Two users -/

/-- A user with settings for logging. -/
structure User where
  /-- The text of the settings. -/
  content : Text
  /-- What the text holds. -/
  entries : List (Text × Value)
  /-- The loggers to be debugged. -/
  modules : Text := Text.of " a , "

/-- A host on which nothing was logged yet, with the settings of a user and a directory for the log
file. -/
def hostWith (user : User) : Host :=
  let source := Settings.sourceWith (Text.of "logging.yml") user.content (.mapping user.entries)
  { state := { tree := source.tree }
    userDirectory := source.userDirectory
    parser := source.parser
    environment :=
      [(Text.of "REPOCONF_LOG_DIR", Text.of "/logs"),
        (Text.of "REPOCONF_DEBUG_MODULES", user.modules)] }

/-- The files of the host after the directory of the log file was made. -/
def preparedTree (user : User) : Files.Tree where
  current := [Text.of "work"]
  nodes := .ofList
    [([Text.of "u"], .directory),
      ([Text.of "u", Text.of "logging.yml"], .file (Utf8.encode user.content)),
      ([Text.of "logs"], .directory)]

/-- The host after the directory of the log file was made. -/
def preparedWith (user : User) : Host :=
  { hostWith user with state := { tree := preparedTree user } }

theorem prepareDirectory_hostWith (user : User) :
    (hostWith user).prepareDirectory = (.ok (), preparedWith user) := by
  rfl

theorem readsPackaged_hostWith (user : User) : (hostWith user).parser.ReadsPackaged :=
  Settings.readsPackaged_ofDocuments _

theorem document?_preparedWith {user : User} (returnless : '\r' ∉ user.content)
    (first : user.content ≠ Settings.loggingText)
    (second : user.content ≠ Settings.repositoryText) :
    (preparedWith user).source.document? (Text.of "logging.yml") = some (.mapping user.entries) :=
  Settings.Source.document?_of_read (Settings.readText_of_read returnless rfl)
    (Settings.read_packagedDocuments_append first second)

theorem spares_preparedWith (user : User) (packaged : OrderedMap Text Value) :
    (preparedWith user).source.Spares (Text.of "repoconf.yml") packaged := by
  have place : (preparedWith user).source.tree.locate
      ((preparedWith user).source.userPath (Text.of "repoconf.yml")) =
      .ok [Text.of "u", Text.of "repoconf.yml"] := rfl
  exact Settings.spares_of_absent place rfl packaged

/-- The loggers of the library have neither handlers nor filters at first. -/
theorem get_initial (name : Text) :
    (Loggers.initial.get name).handlers = [] ∧ (Loggers.initial.get name).filters = [] := by
  have used : ∀ logger ∈ Loggers.initial.root :: Loggers.initial.named.toList.map Prod.snd,
      logger.handlers = [] ∧ logger.filters = [] := by decide
  exact Loggers.of_get used ⟨rfl, rfl⟩ name

theorem isSteady_initial (tree : Files.Tree) : State.IsSteady { tree } where
  named name := by
    rw [(get_initial name).2]
    nofun
  serves name number member := by
    rw [(get_initial name).1] at member
    cases member
  flushes number _ capacity flushLevel recipient sink_eq := by
    cases State.lt_of_sink_eq_memory sink_eq

theorem reopensNothing_initial (tree : Files.Tree) : State.ReopensNothing { tree } := by
  intro name _ number member
  rw [(get_initial name).1] at member
  cases member

/-- Where there are no handlers, nothing but the tree can be changed by them. -/
theorem eq_of_keeps_initial {tree : Files.Tree} {after : State}
    (keeps : State.Keeps { tree } after) : after = { tree := after.tree } := by
  obtain ⟨tree, loggers, handlers⟩ := after
  have loggers_eq : loggers = .initial := keeps.loggers
  have handlers_eq : handlers = [] := List.eq_nil_of_length_eq_zero keeps.size
  rw [loggers_eq, handlers_eq]

/-- The settings of a user are loaded where nothing was logged yet. -/
theorem obtainSettings_preparedWith {user : User}
    (document : (preparedWith user).source.document? (Text.of "logging.yml") =
      some (.mapping user.entries)) :
    ∃ tree journal settings, (preparedWith user).obtainSettings =
      (.ok (mergedSettings user.entries),
        { preparedWith user with state := { tree }, journal, settings }) := by
  have usual : (preparedWith user).source.filenames = Settings.defaultFilenames := rfl
  have reads : (preparedWith user).source.parser.ReadsPackaged := readsPackaged_hostWith user
  obtain ⟨all, loaded, merged⟩ :=
    exists_load_logging usual reads document (spares_preparedWith user _)
  obtain ⟨state, journal, settings, obtained, keeps⟩ :=
    obtainSettings_spec (preparedWith user) (isSteady_initial _) rfl loaded
  rw [merged, eq_of_keeps_initial keeps] at obtained
  exact ⟨state.tree, journal, settings, obtained⟩

/-- The settings of a user with a handler of a class that is not known. -/
def brokenHandler : User where
  content := Text.of "handlers:\n  broken:\n    class: no.such.HandlerClass\n"
  entries :=
    [(Text.of "handlers", .mapping
      [(Text.of "broken", .mapping [(Text.of "class", .text (Text.of "no.such.HandlerClass"))])])]

theorem document?_brokenHandler :
    (preparedWith brokenHandler).source.document? (Text.of "logging.yml") =
      some (.mapping brokenHandler.entries) :=
  document?_preparedWith (by decide) (by decide) (by decide)

theorem directSettings_brokenHandler (path : Text) :
    directSettings (mergedSettings brokenHandler.entries) path =
      .ok (mergedSettings brokenHandler.entries) := rfl

set_option maxRecDepth 8000 in
theorem configure_brokenHandler (tree : Files.Tree) :
    configure { tree } (mergedSettings brokenHandler.entries) =
      (.error (.logging (.unusablePart .handler (.text (Text.of "broken")))), { tree }) := by
  rfl

/-- A class that is not known leads to the console; the logger that is named is debugged. -/
theorem broken_handler_leaves_console :
    (hostWith brokenHandler).setup.1 = .ok () ∧
      ((hostWith brokenHandler).setup.2.state.loggers.get ['a']).level = .debug := by
  obtain ⟨tree, journal, settings, obtained⟩ := obtainSettings_preparedWith document?_brokenHandler
  have reported : ∀ directed, IsVersioned (mergedSettings brokenHandler.entries) →
      directSettings (mergedSettings brokenHandler.entries) (hostWith brokenHandler).logPath =
          .ok directed →
        IsReported (preparedWith brokenHandler).obtainSettings.2.state directed := by
    intro directed _ directs
    cases (directSettings_brokenHandler _).symm.trans directs
    rw [obtained]
    refine ⟨?_, ?_, ?_⟩
    · rw [configure_brokenHandler]
      intro failure wrong
      cases wrong
      rfl
    · rw [configure_brokenHandler]
      exact isSteady_initial tree
    · rw [configure_brokenHandler]
      exact fun _ _ => reopensNothing_initial tree
  obtain ⟨comesOff, leaves, -⟩ := setup_usable rfl (readsPackaged_hostWith _) rfl
    (isSteady_initial _) (reopensNothing_initial _) (prepareDirectory_hostWith brokenHandler)
    document?_brokenHandler (spares_preparedWith brokenHandler _) reported
  have done : (hostWith brokenHandler).setup.1 = .ok () := by
    refine comesOff.mpr fun _ handlers listed => ?_
    cases listed
    exact .mapping nofun
  obtain ⟨base, -, debugged⟩ := leaves done
  exact ⟨done, debugged.level ['a'] (by decide)⟩

/-- The settings of a user who leaves out all handlers. -/
def nullHandlers : User where
  content := Text.of "handlers: null\n"
  entries := [(Text.of "handlers", .absent)]

/-- Settings that leave out all handlers make the setup fail, though the directory can be made. -/
theorem null_handlers_break_setup :
    (hostWith nullHandlers).prepareDirectory.1 = .ok () ∧
      (preparedWith nullHandlers).source.document? (Text.of "logging.yml") =
        some (.mapping [(Text.of "handlers", .absent)]) ∧
      (hostWith nullHandlers).setup.1 = .error (.argument (.notAContainer "NoneType")) := by
  have document : (preparedWith nullHandlers).source.document? (Text.of "logging.yml") =
      some (.mapping nullHandlers.entries) :=
    document?_preparedWith (by decide) (by decide) (by decide)
  refine ⟨by rw [prepareDirectory_hostWith], document, ?_⟩
  obtain ⟨tree, journal, settings, obtained⟩ := obtainSettings_preparedWith document
  have versioned : IsVersioned (mergedSettings nullHandlers.entries) := rfl
  have directs : directSettings (mergedSettings nullHandlers.entries)
      (hostWith nullHandlers).logPath = .error (.notAContainer "NoneType") := rfl
  rw [setup_of_obtainSettings (prepareDirectory_hostWith _) obtained,
    chooseSettings_of_isVersioned _ _ versioned, directs]

end Host
end Logging
end PackageRepos
