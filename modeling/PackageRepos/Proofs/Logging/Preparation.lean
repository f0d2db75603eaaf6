import PackageRepos.Proofs.Logging.Setup

/-!
# The settings that logging is set up from

The settings of a host are loaded once and kept. Logging is configured from those for logging, or
from those of the console where there is no version or one that is not understood. Before that, only
the work of handlers can change anything else.
-/

namespace PackageRepos
namespace Logging
namespace Host

variable {host : Host} {settings sheet directed : Sheet} {path : Text} {state base : State}

/-! ## The settings in use -/

/-- Why settings are rejected before anything is changed: their version is not understood. -/
def rejection? (sheet : Sheet) : Option Failure :=
  match sheet.field "version" with
  | .error failure => some failure
  | .ok version =>
    let version := (version.map (·.value)).getD .absent
    if isSupported version then none else some (.logging (.unsupportedVersion version))

theorem configure_of_rejection {failure : Failure} (rejected : rejection? sheet = some failure)
    (state : State) : configure state sheet = (.error failure, state) := by
  unfold rejection? at rejected
  unfold configure
  cases found : sheet.field "version" with
  | error other =>
    simp only [found] at rejected
    cases rejected
    rfl
  | ok version =>
    simp only [found] at rejected
    cases supported : isSupported ((version.map (·.value)).getD .absent) with
    | true => simp [supported] at rejected
    | false =>
      simp only [supported, Bool.false_eq_true, if_false] at rejected
      cases rejected
      simp [supported]

/-- The settings that logging is configured from in the end, if there are any: those of the host, or
those of the console. -/
def settingsInUse (settings : Sheet) (path : Text) : Except Failure Sheet :=
  if IsVersioned settings then
    match directSettings settings path with
    | .error fault => .error (.argument fault)
    | .ok directed =>
      match rejection? directed with
      | none => .ok directed
      | some failure => if failure.isMistake then .ok consoleSheet else .error failure
  else .ok consoleSheet

/-- Logging is configured from the settings in use. -/
theorem exists_chooseSettings (used : settingsInUse settings path = .ok sheet)
    (done : configure host.state sheet = (.ok (), base)) (steady : base.IsSteady) :
    ∃ state journal,
      host.chooseSettings settings path = (.ok (), { host with state, journal }) ∧
        base.Keeps state := by
  by_cases versioned : IsVersioned settings
  · rw [chooseSettings_of_isVersioned host path versioned]
    rw [settingsInUse, if_pos versioned] at used
    cases directs : directSettings settings path with
    | error fault => simp [directs] at used
    | ok directed =>
      cases rejected : rejection? directed with
      | none =>
        simp only [directs, rejected] at used
        cases used
        exact exists_applySettings done steady
      | some failure =>
        cases mistake : failure.isMistake with
        | false => simp [directs, rejected, mistake] at used
        | true =>
          simp only [directs, rejected, mistake, if_true] at used
          cases used
          exact exists_applySettings_of_isMistake (configure_of_rejection rejected _) mistake done
            steady
  · rw [settingsInUse, if_neg versioned] at used
    cases used
    refine ⟨base, host.journal, ?_, .refl base⟩
    refine (if_neg versioned).trans ?_
    simp only [useConsole, act, done]

theorem exists_recordAll (host : Host) (events : List Event) :
    ∃ state journal, (host.recordAll events).2 = { host with state, journal } ∧
      host.state.Keeps state := by
  induction events generalizing host with
  | nil => exact ⟨host.state, host.journal, rfl, .refl _⟩
  | cons event rest ih =>
    obtain ⟨state, journal, recorded, keeps⟩ := exists_record host event
    rw [recordAll]
    cases done : host.record event with
    | mk outcome after =>
      rw [done] at recorded
      cases outcome with
      | error failure => exact ⟨state, journal, recorded, keeps⟩
      | ok _ =>
        obtain rfl : after = _ := recorded
        obtain ⟨last, journalled, finished, kept⟩ := ih { host with state, journal }
        exact ⟨last, journalled, finished, keeps.trans kept⟩

/-- The host keeps settings that it has loaded, and takes those for logging from them. -/
def Caches (host : Host) (settings : Sheet) : Prop :=
  ∃ all, host.settings.current = some all ∧ all.sectionOf "logging" = settings

/-- The host before logging is configured. -/
def informed (host : Host) : Host := host.prepareDirectory.2.obtainSettings.2

theorem current_of_obtain {cache : Settings.Cache} {source : Settings.Source} {all : Settings}
    (obtained : (cache.obtain source).1.1 = .ok all) :
    (cache.obtain source).2.current = some all := by
  unfold Settings.Cache.obtain at obtained ⊢
  split
  · rename_i kept current
    simp only [current] at obtained
    cases obtained
    exact current
  · rename_i fresh
    simp only [fresh] at obtained
    split <;> rename_i loaded <;> rw [loaded] at obtained
    · cases obtained
      rfl
    · cases obtained

theorem exists_obtainSettings (host : Host) :
    ∃ state journal cache,
      host.obtainSettings.2 = { host with state, journal, settings := cache } ∧
      host.state.Keeps state ∧
      ∀ settings, host.obtainSettings.1 = .ok settings →
        ∃ all, cache.current = some all ∧ all.sectionOf "logging" = settings := by
  have current := @current_of_obtain host.settings host.source
  unfold obtainSettings
  generalize host.settings.obtain host.source = obtained at current ⊢
  obtain ⟨⟨loaded, events⟩, cache⟩ := obtained
  obtain ⟨state, journal, recorded, keeps⟩ :=
    exists_recordAll { host with settings := cache } events
  dsimp only
  cases done : recordAll { host with settings := cache } events with
  | mk outcome after =>
    rw [done] at recorded
    obtain rfl : after = _ := recorded
    cases outcome with
    | error failure => exact ⟨state, journal, cache, rfl, keeps, nofun⟩
    | ok _ =>
      refine ⟨state, journal, cache, rfl, keeps, fun settings mapped => ?_⟩
      cases loaded with
      | error failure => cases mapped
      | ok all =>
        cases mapped
        exact ⟨all, current rfl, rfl⟩

/-- Before logging is configured, work of handlers and files apart, only settings are loaded. -/
theorem exists_informed (host : Host) :
    ∃ state journal cache, host.informed = { host with state, journal, settings := cache } ∧
      host.state.Keeps state ∧
      ∀ settings, host.prepareDirectory.2.obtainSettings.1 = .ok settings →
        ∃ all, cache.current = some all ∧ all.sectionOf "logging" = settings := by
  obtain ⟨tree, prepared⟩ : ∃ tree, host.prepareDirectory.2 =
      { host with state := { host.state with tree } } :=
    ⟨_, rfl⟩
  obtain ⟨state, journal, cache, obtained, keeps, caches⟩ :=
    exists_obtainSettings host.prepareDirectory.2
  refine ⟨state, journal, cache, ?_, ?_, caches⟩
  · rw [informed, obtained, prepared]
  · rw [prepared] at keeps
    exact ((State.Keeps.refl host.state).withTree tree).trans keeps

theorem obtainSettings_of_caches (caches : host.Caches settings) :
    host.obtainSettings = (.ok settings, host) := by
  obtain ⟨all, current, rfl⟩ := caches
  simp only [obtainSettings, Settings.Cache.obtain, current, recordAll]
  rfl

end Host
end Logging
end PackageRepos
