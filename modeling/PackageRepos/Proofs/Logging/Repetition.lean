import PackageRepos.Proofs.Logging.Preparation
import PackageRepos.Proofs.Logging.Reconfiguring

/-!
# Setting up logging again

Where the loggers can be configured each time and no handler in use fails, setting up logging again
changes nothing that can be seen of a logger: the settings grant what they granted before, and
switching to debugging adds nothing. A handler that fails may be handed its first event only the
second time, because debugging lets more events through.
-/

namespace PackageRepos
namespace Logging
namespace Host

variable {host : Host} {settings sheet : Sheet}

/-! ## Setting up once -/

/-- The host can be set up from these settings: they replace former ones, the loggers can be
configured, and no handler that is then in use fails. -/
structure IsReady (host : Host) (sheet : Sheet) : Prop where
  anew : IsAnew sheet
  configured : (configure host.informed.state sheet).1 = .ok ()
  steady : (configure host.informed.state sheet).2.IsSteady

/-- What setting up leads to: the loggers are configured, and those that the environment names are
switched to debugging. -/
structure IsSetUp (host : Host) (settings sheet : Sheet) (last : Host) : Prop where
  caches : last.Caches settings
  environment : last.environment = host.environment
  steady : last.state.IsSteady
  level : ∀ name ∈ debugTargets host.environment, (last.state.loggers.get name).level = .debug
  shows : ∀ name ∈ debugTargets host.environment, ShowsDebugging last.state name
  view : ∀ name, last.state.view name =
    if IsAmong (debugTargets host.environment) name then
      ((configure host.informed.state sheet).2.view name).debugged
    else (configure host.informed.state sheet).2.view name

/-- A host that is ready is set up, if the directory of the log file can be made. -/
theorem exists_setup (makes : host.prepareDirectory.1 = .ok ())
    (obtained : host.prepareDirectory.2.obtainSettings.1 = .ok settings)
    (used : settingsInUse settings host.logPath = .ok sheet) (ready : host.IsReady sheet) :
    ∃ last, host.setup = (.ok (), last) ∧ host.IsSetUp settings sheet last := by
  obtain ⟨state, journal, cache, informed_eq, -, caches⟩ := exists_informed host
  have made : host.prepareDirectory = (.ok (), host.prepareDirectory.2) := Prod.ext makes rfl
  have obtains : host.prepareDirectory.2.obtainSettings = (.ok settings, host.informed) :=
    Prod.ext obtained rfl
  have configures : configure host.informed.state sheet =
      (.ok (), (configure host.informed.state sheet).2) :=
    Prod.ext ready.configured rfl
  obtain ⟨next, journalled, chosen, keeps⟩ :=
    exists_chooseSettings used configures ready.steady
  have steady := ready.steady.keep keeps
  obtain ⟨last, finished, switched, switches⟩ :=
    exists_switches { host.informed with state := next, journal := journalled } steady
      (debugTargets host.informed.environment)
  have setup_eq := setup_of_obtainSettings made obtains
  rw [chosen] at setup_eq
  have environment_eq : host.informed.environment = host.environment := by rw [informed_eq]
  rw [environment_eq] at switches
  have debugged := switches.debugged steady
  refine ⟨_, setup_eq.trans switched, ?_⟩
  refine
    { caches := ?_
      environment := environment_eq
      steady := switches.isSteady steady
      level := debugged.level
      shows := debugged.shows
      view := fun name => ?_ }
  · rw [Caches, informed_eq]
    exact caches settings obtained
  · rw [switches.view steady, keeps.resembles.view]

/-- Before logging is configured, loggers look as they did. -/
theorem resembles_informed (host : Host) : host.state.Resembles host.informed.state := by
  obtain ⟨state, journal, cache, informed_eq, keeps, -⟩ := exists_informed host
  rw [informed_eq]
  exact keeps.resembles

/-- A file that was made changes nothing of what was set up. -/
theorem IsSetUp.withTree {last : Host} (setUp : host.IsSetUp settings sheet last)
    (tree : Files.Tree) :
    host.IsSetUp settings sheet { last with state := { last.state with tree } } where
  caches := setUp.caches
  environment := setUp.environment
  steady := setUp.steady.keep ((State.Keeps.refl last.state).withTree tree)
  level := setUp.level
  shows := setUp.shows
  view := setUp.view

/-- Without a directory for the log file nothing is set up, and nothing is changed but the tree. -/
theorem exists_setup_of_error {failure : Failure}
    (blocked : host.prepareDirectory.1 = .error failure) :
    ∃ tree, host.setup = (.error failure, { host with state := { host.state with tree } }) := by
  have prepared : host.prepareDirectory = (.error failure, host.prepareDirectory.2) :=
    Prod.ext blocked rfl
  refine ⟨host.prepareDirectory.2.state.tree, ?_⟩
  rw [setup, prepared]
  rfl

/-- Setting up a second time leads to what the first time led to. -/
theorem IsSetUp.twice {last next : Host} (setUp : host.IsSetUp settings sheet last)
    (redone : last.IsSetUp settings sheet next) (complete : host.state.IsComplete)
    (orderly : ∀ name ∈ host.state.loggers.named.keys, Loggers.IsOrderly name)
    (ready : host.IsReady sheet) (still_ready : last.IsReady sheet) :
    host.IsSetUp settings sheet next := by
  have targets_eq := congrArg debugTargets setUp.environment
  refine
    { caches := redone.caches
      environment := redone.environment.trans setUp.environment
      steady := redone.steady
      level := targets_eq ▸ redone.level
      shows := targets_eq ▸ redone.shows
      view := fun name => ?_ }
  have resembles := resembles_informed host
  have last_resembles := resembles_informed last
  -- The second configuration starts from what the first one led to, debugged or not.
  have alike := changedAlike_of_configure ready.anew (resembles.isComplete complete)
    (last_resembles.isComplete setUp.steady.isComplete) (resembles.loggers ▸ orderly)
    (Prod.ext ready.configured rfl) (Prod.ext still_ready.configured rfl) name
  rw [last_resembles.view, setUp.view] at alike
  rw [redone.view, targets_eq]
  split
  · rename_i among
    rw [if_pos among] at alike
    exact alike.settled_debugged
  · rename_i apart
    rw [if_neg apart] at alike
    exact alike.settled

/-- A host that was set up is as after the first time when it is set up again, or when the
directory of the log file cannot be made any more. -/
theorem IsSetUp.again {last : Host} (setUp : host.IsSetUp settings sheet last)
    (used : settingsInUse settings host.logPath = .ok sheet) (complete : host.state.IsComplete)
    (orderly : ∀ name ∈ host.state.loggers.named.keys, Loggers.IsOrderly name)
    (ready : host.IsReady sheet)
    (still_ready : last.prepareDirectory.1 = .ok () → last.IsReady sheet) :
    (last.prepareDirectory.1 = .ok () → last.setup.1 = .ok ()) ∧
      host.IsSetUp settings sheet last.setup.2 := by
  cases makes : last.prepareDirectory.1 with
  | error failure =>
    obtain ⟨tree, failed⟩ := exists_setup_of_error makes
    rw [failed]
    exact ⟨nofun, setUp.withTree tree⟩
  | ok _ =>
    have prepared : last.prepareDirectory.2.Caches settings := setUp.caches
    have obtains := obtainSettings_of_caches prepared
    have path_eq : last.logPath = host.logPath := by
      rw [logPath, logPath, logDirectory, logDirectory, setUp.environment]
    obtain ⟨next, done, redone⟩ :=
      exists_setup makes (congrArg Prod.fst obtains) (path_eq ▸ used) (still_ready makes)
    rw [done]
    exact ⟨fun _ => rfl, setUp.twice redone complete orderly ready (still_ready makes)⟩

/-! ## Setting up any number of times -/

end Host
end Logging
end PackageRepos
