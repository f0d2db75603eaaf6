import PackageRepos.Proofs.Logging.Names
import PackageRepos.Proofs.Logging.Wishes

/-!
# Configuring loggers once more

Applying settings changes every logger alike in two states. What settings want of a logger that they
name is the same; a logger that they do not name is left as it is, or starts anew when it was there
below one that is named.
-/

namespace PackageRepos
namespace Logging

/-- The same happened to two loggers: they were granted one wish, or the first started anew, and the
second did so or was left as it was. -/
inductive ChangedAlike (before after other changed : LoggerView) : Prop
  | granted (wish : Wish) (after_eq : after = wish.grant before)
      (changed_eq : changed = wish.grant other)
  | renewed (after_eq : after = .fresh) (changed_eq : changed = other ∨ changed = .fresh)

namespace ChangedAlike

variable {before after changed : LoggerView}

/-- What was changed before is not changed again. -/
theorem settled (alike : ChangedAlike before after after changed) : changed = after := by
  cases alike with
  | granted wish after_eq changed_eq =>
    subst after_eq
    rw [changed_eq, LoggerView.grant_grant]
  | renewed after_eq changed_eq =>
    subst after_eq
    exact changed_eq.elim id id

/-- What was changed before and then switched to debugging is as it was after both once more. -/
theorem settled_debugged (alike : ChangedAlike before after after.debugged changed) :
    changed.debugged = after.debugged := by
  cases alike with
  | granted wish after_eq changed_eq =>
    subst after_eq
    rw [changed_eq, LoggerView.debugged_grant]
  | renewed after_eq changed_eq =>
    subst after_eq
    rcases changed_eq with rfl | rfl
    · exact LoggerView.debugged_debugged _
    · rfl

end ChangedAlike

/-! ## Loggers that are not named -/

/-- The names of loggers, and the names that these are below. -/
def Loggers.HasPlace (loggers : Loggers) (name : Text) : Prop :=
  name ∈ loggers.named.keys ∨ ∃ other ∈ loggers.named.keys, name ∈ Loggers.namesAbove other

/-- A logger that was there starts anew: settings do not name it, but one above it. -/
structure StartsAnew (before : Loggers) (names : List Value) (name : Text) : Prop where
  isThere : name ∈ before.named.keys
  unnamed : .text name ∉ names
  above : ∃ above, .text above ∈ names ∧ before.HasPlace above ∧ isBelow name above = true

/-- What is settled, by the names that are chosen. -/
theorem exists_chosen (isDisabled : Bool) (before loggers : Loggers) (names : List Value) :
    ∃ chosen : List Text, (∀ name, name ∈ chosen ↔ .text name ∈ names) ∧
      settleOthers isDisabled before names loggers =
        { loggers with
          named := loggers.named.mapEntries fun name logger =>
            if !before.named.keys.contains name || chosen.contains name then logger
            else if (chosen.filter (before.named.keys ++
                before.named.keys.flatMap Loggers.namesAbove).contains).any (isBelow name ·) then
              { logger with level := .unset, handlers := [], propagate := .bool true }
            else { logger with isDisabled } } := by
  refine ⟨_, fun name => ?_, rfl⟩
  rw [List.mem_filterMap]
  constructor
  · rintro ⟨value, member, chosen⟩
    cases value <;> simp_all
  · exact fun member => ⟨_, member, rfl⟩

theorem any_leading_iff {before : Loggers} {names : List Value} {chosen : List Text} {name : Text}
    (chosen_iff : ∀ name, name ∈ chosen ↔ .text name ∈ names) :
    (chosen.filter (before.named.keys ++
        before.named.keys.flatMap Loggers.namesAbove).contains).any (isBelow name ·) = true ↔
      ∃ above, .text above ∈ names ∧ before.HasPlace above ∧ isBelow name above = true := by
  simp only [List.any_eq_true, List.mem_filter, chosen_iff, List.contains_iff_mem, List.mem_append,
    List.mem_flatMap, Loggers.HasPlace, and_assoc]

theorem viewOf_settleOthers_of_startsAnew (state : State) (isDisabled : Bool)
    {before loggers : Loggers} {names : List Value} {name : Text}
    (isNamed : Loggers.namesRoot name = false) (starts : StartsAnew before names name) :
    state.viewOf ((settleOthers isDisabled before names loggers).get name) = .fresh := by
  obtain ⟨chosen, chosen_iff, settled⟩ := exists_chosen isDisabled before loggers names
  simp only [settled, Loggers.get, isNamed, Bool.false_eq_true, if_false,
    OrderedMap.get?_mapEntries]
  cases loggers.named.get? name with
  | none => rfl
  | some logger =>
    have others : ¬ (!before.named.keys.contains name || chosen.contains name) = true := by
      simp [starts.isThere, chosen_iff, starts.unnamed]
    rw [Option.map_some, Option.getD_some, if_neg others,
      if_pos ((any_leading_iff chosen_iff).mpr starts.above)]
    rfl

theorem viewOf_settleOthers (state : State) (isDisabled : Bool)
    {before loggers : Loggers} {names : List Value} {name : Text}
    (stays : Loggers.namesRoot name = false → ¬ StartsAnew before names name) :
    state.viewOf ((settleOthers isDisabled before names loggers).get name) =
      state.viewOf (loggers.get name) := by
  obtain ⟨chosen, chosen_iff, settled⟩ := exists_chosen isDisabled before loggers names
  rw [settled]
  unfold Loggers.get
  split
  · rfl
  · rename_i isNamed
    rw [OrderedMap.get?_mapEntries]
    cases loggers.named.get? name with
    | none => rfl
    | some logger =>
      rw [Option.map_some, Option.getD_some, Option.getD_some]
      split
      · rfl
      · rename_i other
        rw [if_neg]
        · rfl
        · intro leads
          have above := (any_leading_iff chosen_iff).mp leads
          simp only [Bool.or_eq_true, not_or, List.contains_iff_mem, chosen_iff] at other
          exact stays (by simpa using isNamed) ⟨by simpa using other.1, other.2, above⟩

/-- A logger with an orderly name that starts anew in one state does so in every other one where it
was there. -/
theorem StartsAnew.of_isOrderly {before other : Loggers} {names : List Value} {name : Text}
    (starts : StartsAnew other names name) (orderly : Loggers.IsOrderly name)
    (isThere : name ∈ before.named.keys) : StartsAnew before names name := by
  obtain ⟨above, chosen, -, below⟩ := starts.above
  exact ⟨isThere, starts.unnamed, above, chosen,
    .inr ⟨name, isThere, Loggers.mem_namesAbove orderly below⟩, below⟩

/-! ## All loggers -/

theorem exists_of_configureAllLoggers {known : Known} {isDisabled : Bool} {loggers after : Loggers}
    (done : configureAllLoggers known isDisabled loggers = (.ok (), after)) :
    ∃ parts names configured, known.sheet.fieldOfParts "loggers" = .ok (parts, names) ∧
      configureLoggers (configureCommon known) known.sheet parts loggers names =
        (.ok (), configured) ∧
      configureRoot (configureCommon known) known.sheet
        (settleOthers isDisabled loggers names configured) = (.ok (), after) := by
  unfold configureAllLoggers configureNamed at done
  cases listed : known.sheet.fieldOfParts "loggers" with
  | error failure => simp [listed] at done
  | ok pair =>
    obtain ⟨parts, names⟩ := pair
    simp only [listed] at done
    cases configuring :
        configureLoggers (configureCommon known) known.sheet parts loggers names with
    | mk outcome configured =>
      rw [configuring] at done
      cases outcome with
      | error failure => cases done
      | ok _ => exact ⟨parts, names, configured, rfl, configuring, done⟩

/-- Configuring from the same settings changes every logger alike in two states. -/
theorem changedAlike_of_configureAllLoggers {known : Known} {isDisabled : Bool}
    {state mirror : State} {start other : Nat} {loggers after others changed : Loggers}
    (described : state.describedFrom start = mirror.describedFrom other)
    (orderly : ∀ name ∈ loggers.named.keys, Loggers.IsOrderly name)
    (done : configureAllLoggers (known.renumbered (start + ·)) isDisabled loggers = (.ok (), after))
    (redone : configureAllLoggers (known.renumbered (other + ·)) isDisabled others =
      (.ok (), changed)) (name : Text) :
    ChangedAlike (state.viewOf (loggers.get name)) (state.viewOf (after.get name))
      (mirror.viewOf (others.get name)) (mirror.viewOf (changed.get name)) := by
  obtain ⟨parts, names, configured, listed, named, rooted⟩ := exists_of_configureAllLoggers done
  obtain ⟨_, _, reconfigured, relisted, renamed, rerooted⟩ := exists_of_configureAllLoggers redone
  obtain ⟨rfl, rfl⟩ := Prod.mk.inj (Except.ok.inj (listed.symm.trans relisted))
  obtain ⟨wish, configured_eq, reconfigured_eq⟩ := exists_wish_of_configureLoggers
    (fun part => ⟨_, grants_configureLogger known state start part,
      described ▸ grants_configureLogger known mirror other part⟩) named renamed name
  cases root : Loggers.namesRoot name with
  | true =>
    obtain ⟨further, after_eq, changed_eq⟩ := exists_wish_of_configureRoot
      (fun part => ⟨_, grants_configureCommon known state start part,
        described ▸ grants_configureCommon known mirror other part⟩) rooted rerooted name
    have rooted_names : ∀ before : Loggers, Loggers.namesRoot name = false →
        ¬ StartsAnew before names name := fun _ isNamed => by simp [root] at isNamed
    refine .granted (wish.andThen further) ?_ ?_
    · rw [after_eq, viewOf_settleOthers _ _ (rooted_names _), configured_eq, Wish.grant_andThen]
    · rw [changed_eq, viewOf_settleOthers _ _ (rooted_names _), reconfigured_eq,
        Wish.grant_andThen]
  | false =>
    have apart : .text name ∉ names → ∀ key, .text key ∈ names → ¬ Loggers.AreSame name key := by
      rintro unnamed key member (rfl | ⟨isRoot, -⟩)
      · exact unnamed member
      · simp [root] at isRoot
    rw [get_of_configureRoot rooted root, get_of_configureRoot rerooted root]
    -- The first state tells which case a logger is in; the second one has loggers in addition, so
    -- that more may start anew there, of which the first had none.
    by_cases starts : StartsAnew loggers names name
    · refine .renewed (viewOf_settleOthers_of_startsAnew _ _ root starts) ?_
      by_cases restarts : StartsAnew others names name
      · exact .inr (viewOf_settleOthers_of_startsAnew _ _ root restarts)
      · refine .inl ?_
        rw [viewOf_settleOthers _ _ fun _ => restarts,
          get_of_configureLoggers renamed (apart starts.unnamed)]
    · rw [viewOf_settleOthers _ _ fun _ => starts]
      by_cases restarts : StartsAnew others names name
      · have missing : loggers.named.get? name = none := by
          rw [OrderedMap.get?_eq_none_iff]
          exact fun isThere => starts (restarts.of_isOrderly (orderly name isThere) isThere)
        refine .renewed ?_ (.inr (viewOf_settleOthers_of_startsAnew _ _ root restarts))
        rw [get_of_configureLoggers named (apart restarts.unnamed), Loggers.get, root, missing]
        rfl
      · rw [viewOf_settleOthers _ _ fun _ => restarts]
        exact .granted wish configured_eq reconfigured_eq

/-! ## All settings -/

theorem exists_of_bind_eq_ok {α β ε : Type} {first : Except ε α} {next : α → Except ε β} {made : β}
    (done : (first >>= next) = .ok made) : ∃ value, first = .ok value ∧ next value = .ok made := by
  cases first with
  | error failure => cases done
  | ok value => exact ⟨value, rfl, done⟩

theorem handlers_of_knownOf {sheet : Sheet} {known : Known} (done : knownOf sheet = .ok known) :
    known.handlers = [] := by
  unfold knownOf at done
  obtain ⟨⟨parts, names⟩, -, done⟩ := exists_of_bind_eq_ok done
  obtain ⟨⟨layouts, left⟩, -, done⟩ := exists_of_bind_eq_ok done
  obtain ⟨⟨filterParts, filterNames⟩, -, done⟩ := exists_of_bind_eq_ok done
  obtain ⟨⟨filters, last⟩, -, done⟩ := exists_of_bind_eq_ok done
  cases done
  rfl

/-- The stages of a configuration that comes off. -/
theorem exists_of_configureAnew {sheet : Sheet} {state after : State}
    (done : configureAnew sheet state = (.ok (), after)) :
    ∃ disabling left known retired configured made loggers,
      sheet.takeField "disable_existing_loggers" = .ok (disabling, left) ∧
      knownOf left = .ok known ∧ state.retireAll = (.ok (), retired) ∧
      configureHandlers known retired = (.ok configured, made) ∧
      configureAllLoggers configured ((disabling.map Value.isTrue).getD true) made.loggers =
        (.ok (), loggers) ∧ after = { made with loggers } := by
  unfold configureAnew at done
  split at done
  · cases done
  · rename_i disabling left taken
    split at done
    · cases done
    · rename_i retired retires
      split at done
      · cases done
      · rename_i known parts_known
        split at done
        · cases done
        · rename_i configured made handled
          cases applied : configureAllLoggers configured ((disabling.map Value.isTrue).getD true)
              made.loggers with
          | mk outcome loggers =>
            simp only [applied, Prod.mk.injEq] at done
            obtain ⟨rfl, rfl⟩ := done
            exact ⟨disabling, left, known, retired, configured, made, loggers, taken, parts_known,
              retires, handled, applied, rfl⟩

/-- The settings do not only add to former ones. -/
def IsAnew (sheet : Sheet) : Prop :=
  ∀ incremental left, sheet.takeField "incremental" = .ok (incremental, left) →
    (incremental.map Value.isTrue).getD false = false

instance (sheet : Sheet) : Decidable (IsAnew sheet) :=
  match taken : sheet.takeField "incremental" with
  | .error _ => isTrue fun _ _ found => by simp [taken] at found
  | .ok (incremental, _) =>
    decidable_of_iff ((incremental.map Value.isTrue).getD false = false) (by simp [IsAnew, taken])

theorem exists_of_configure {sheet : Sheet} {state after : State} (anew : IsAnew sheet)
    (done : configure state sheet = (.ok (), after)) :
    ∃ incremental left, sheet.takeField "incremental" = .ok (incremental, left) ∧
      configureAnew left state = (.ok (), after) := by
  unfold configure at done
  split at done
  · cases done
  · dsimp only at done
    split at done
    · cases done
    · split at done
      · cases done
      · rename_i incremental left taken
        rw [anew incremental left taken] at done
        exact ⟨incremental, left, taken, done⟩

section Configure

variable {sheet : Sheet} {state after other changed : State}

/-- Before loggers are configured, they are as they were, and so is what is seen of them. -/
theorem former_of_made {known configured : Known} {retired made : State}
    (complete : state.IsComplete) (retires : state.retireAll = (.ok (), retired))
    (handled : configureHandlers known retired = (.ok configured, made)) :
    made.loggers = state.loggers ∧
      ∀ name, made.viewOf (made.loggers.get name) = state.view name := by
  have resembles := State.resembles_retireAll state
  have extended := extends_configureHandlers known retired
  rw [retires] at resembles
  rw [handled] at extended
  refine ⟨extended.loggers.trans resembles.loggers, fun name => ?_⟩
  rw [extended.loggers, extended.viewOf (resembles.isComplete complete name)]
  exact resembles.view name

/-- Applying settings changes every logger alike in two states. -/
theorem changedAlike_of_configure (anew : IsAnew sheet) (complete : state.IsComplete)
    (other_complete : other.IsComplete)
    (orderly : ∀ name ∈ state.loggers.named.keys, Loggers.IsOrderly name)
    (done : configure state sheet = (.ok (), after))
    (redone : configure other sheet = (.ok (), changed)) (name : Text) :
    ChangedAlike (state.view name) (after.view name) (other.view name) (changed.view name) := by
  obtain ⟨incremental, left, taken, done⟩ := exists_of_configure anew done
  obtain ⟨_, _, retaken, redone⟩ := exists_of_configure anew redone
  cases taken.symm.trans retaken
  obtain ⟨disabling, left, known, retired, configured, made, loggers, taken, parts_known, retires,
    handled, applied, rfl⟩ := exists_of_configureAnew done
  obtain ⟨_, _, _, reretired, reconfigured, remade, reloggers, retaken, reparts_known, reretires,
    rehandled, reapplied, rfl⟩ := exists_of_configureAnew redone
  cases taken.symm.trans retaken
  cases parts_known.symm.trans reparts_known
  obtain ⟨next, rfl, rfl, mirrors⟩ :=
    exists_mirrors_of_configureHandlers (handlers_of_knownOf parts_known) handled rehandled
  obtain ⟨loggers_eq, former⟩ := former_of_made complete retires handled
  obtain ⟨-, other_former⟩ := former_of_made other_complete reretires rehandled
  have alike := changedAlike_of_configureAllLoggers (funext mirrors.descriptions)
    (loggers_eq ▸ orderly) applied reapplied name
  rw [former, other_former] at alike
  exact alike

end Configure
end Logging
end PackageRepos
