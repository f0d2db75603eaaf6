import PackageRepos.Proofs.Logging.Mirroring

/-!
# What settings want of loggers

Settings tell of a logger that they name, as far as they do, which level, outlet and handlers it is
to have. A configuration that comes off grants the same wishes whatever state it starts from, and
leaves the loggers that the settings do not name as they are.
-/

namespace PackageRepos
namespace Logging

/-- What a logger is to be, as far as it is told. -/
structure Wish where
  level : Option Level := none
  propagate : Option Value := none
  handlers : Option (List Handler) := none

namespace Wish

/-- What is seen of a logger after the wish was granted. -/
def grant (wish : Wish) (view : LoggerView) : LoggerView where
  level := wish.level.getD view.level
  propagate := wish.propagate.getD view.propagate
  handlers := wish.handlers.getD view.handlers

/-- Two wishes, the second of which is granted last. -/
def andThen (first second : Wish) : Wish where
  level := second.level.or first.level
  propagate := second.propagate.or first.propagate
  handlers := second.handlers.or first.handlers

@[simp]
theorem grant_nothing (view : LoggerView) : ({} : Wish).grant view = view := rfl

theorem grant_andThen (first second : Wish) (view : LoggerView) :
    (first.andThen second).grant view = second.grant (first.grant view) := by
  simp [grant, andThen, Option.getD_or]

end Wish

namespace LoggerView

theorem debugged_congr {view other : LoggerView} (outlet : view.propagate = other.propagate)
    (handlers : view.handlers = other.handlers) : view.debugged = other.debugged := by
  unfold debugged showsDebug
  rw [outlet, handlers]

/-- What is wished for again after debugging makes no difference once debugging is asked for. -/
theorem debugged_grant (wish : Wish) (view : LoggerView) :
    (wish.grant (wish.grant view).debugged).debugged = (wish.grant view).debugged := by
  have outlet :
      (wish.grant (wish.grant view).debugged).propagate = (wish.grant view).propagate := by
    cases given : wish.propagate <;> simp [Wish.grant, debugged, given]
  cases given : wish.handlers with
  | none =>
    rw [← debugged_debugged (wish.grant view)]
    refine debugged_congr outlet ?_
    simp [Wish.grant, given]
  | some handlers =>
    refine debugged_congr outlet ?_
    simp [Wish.grant, given]

theorem grant_grant (wish : Wish) (view : LoggerView) :
    wish.grant (wish.grant view) = wish.grant view := by
  obtain ⟨level, propagate, handlers⟩ := wish
  cases level <;> cases propagate <;> cases handlers <;> rfl

end LoggerView

/-! ## Names that are known -/

namespace HandlerPlan

theorem lookup_map {α β : Type} (f : α → β) (known : List (Text × α)) (name : Text) :
    (known.map (Prod.map id f)).lookup name = (known.lookup name).map f := by
  induction known with
  | nil => rfl
  | cons pair rest ih =>
    rw [List.map_cons, List.lookup_cons, List.lookup_cons, Prod.map_fst, id_eq, ih]
    cases name == pair.1 <;> rfl

theorem lookUp_map {α β : Type} (f : α → β) (known : List (Text × α)) (names : List Value) :
    lookUp (known.map (Prod.map id f)) names = Prod.map (List.map f) id (lookUp known names) := by
  induction names with
  | nil => rfl
  | cons name rest ih =>
    cases name with
    | text name =>
      rw [lookUp, lookUp, lookup_map, ih]
      cases known.lookup name <;> rfl
    | _ => rfl

/-- What names stand for is renumbered as what is known is. -/
theorem lookUpAll_map {α β : Type} (f : α → β) (known : List (Text × α)) (setting : Option Value) :
    lookUpAll (known.map (Prod.map id f)) setting =
      Prod.map (List.map f) id (lookUpAll known setting) := by
  unfold lookUpAll
  split
  · rfl
  · split
    · exact lookUp_map f known _
    · rfl

end HandlerPlan

theorem eraseDups_map {f : Nat → Nat} (injective : Function.Injective f) (numbers : List Nat) :
    (numbers.map f).eraseDups = numbers.eraseDups.map f := by
  cases numbers with
  | nil => rfl
  | cons number rest =>
    have others : (fun other => !f other == f number) = fun other => !other == number := by
      funext other
      rw [Bool.not_inj_iff, Bool.eq_iff_iff, beq_iff_eq, beq_iff_eq, injective.eq_iff]
    rw [List.map_cons, List.eraseDups_cons, List.eraseDups_cons, List.map_cons, List.filter_map,
      Function.comp_def, others, eraseDups_map injective]
termination_by numbers.length
decreasing_by exact Nat.lt_succ_of_le (List.length_filter_le ..)

/-! ## Wishes of settings -/

/-- What settings of a part want of its level and its handlers, which have these descriptions by
number. -/
def Known.commonWish (known : Known) (describe : Nat → Handler) (part : Setting) : Wish where
  level := ((known.sheet.setting? part "level").join.filter Making.isGiven).bind Level.ofValue?
  handlers := some (((HandlerPlan.lookUpAll known.handlers
    (known.sheet.setting? part "handlers").join).1.eraseDups).map describe)

/-- What settings of a part want of its outlet. -/
def outletWish (sheet : Sheet) (part : Setting) : Wish where
  propagate := (sheet.setting? part "propagate").join.filter Making.isGiven

/-- An action on loggers grants a wish where it comes off. -/
def Grants (view : Logger → LoggerView) (wish : Wish) (act : Logger → Bool × Logger) : Prop :=
  ∀ logger, (act logger).1 = true → view (act logger).2 = wish.grant (view logger)

/-- What the handlers of a state were set up to do, by their numbers from the given one on. -/
def State.describedFrom (state : State) (start index : Nat) : Handler :=
  (state.handler (start + index)).description

theorem level_of_chooseLevel {logger : Logger} {level : Option Value}
    (usable : (chooseLevel logger level).1 = true) :
    (chooseLevel logger level).2 =
      { logger with
        level := ((level.filter Making.isGiven).bind Level.ofValue?).getD logger.level } := by
  unfold chooseLevel at usable ⊢
  split
  · rename_i none_given
    rw [none_given]
    rfl
  · rename_i given found
    rw [found]
    cases chosen : Level.ofValue? given <;> simp_all

/-- What all loggers have, after it could be configured. -/
theorem exists_of_configureCommon {known : Known} {part : Setting} {logger : Logger}
    (usable : (configureCommon known part logger).1 = true) :
    ∃ filters, (configureCommon known part logger).2 =
      { logger with
        level := (((known.sheet.setting? part "level").join.filter Making.isGiven).bind
          Level.ofValue?).getD logger.level
        handlers := (HandlerPlan.lookUpAll known.handlers
          (known.sheet.setting? part "handlers").join).1.eraseDups
        filters } := by
  revert usable
  unfold configureCommon
  split
  · exact nofun
  · rename_i level level_eq
    split
    · exact nofun
    · rename_i leveled chosen
      have leveled_eq := level_of_chooseLevel (congrArg Prod.fst chosen)
      rw [chosen] at leveled_eq
      dsimp only at leveled_eq
      split
      · exact nofun
      · rename_i names names_eq
        dsimp only
        split
        · rename_i filterNames _ _
          intro _
          refine ⟨leveled.filters ++ (HandlerPlan.lookUpAll known.filters filterNames).1, ?_⟩
          rw [level_eq, names_eq, leveled_eq]
          rfl
        · exact nofun

theorem grants_configureCommon (known : Known) (state : State) (start : Nat) (part : Setting) :
    Grants state.viewOf (known.commonWish (state.describedFrom start) part)
      (configureCommon (known.renumbered (start + ·)) part) := by
  intro logger usable
  obtain ⟨filters, configured⟩ := exists_of_configureCommon usable
  rw [configured]
  simp only [Known.renumbered, HandlerPlan.lookUpAll_map, Prod.map_fst,
    eraseDups_map (fun _ _ => Nat.add_left_cancel), State.viewOf, List.map_map]
  rfl

theorem grants_configureOutlet (sheet : Sheet) (state : State) (part : Setting) :
    Grants state.viewOf (outletWish sheet part) (configureOutlet sheet part) := by
  intro logger usable
  revert usable
  unfold configureOutlet
  dsimp only
  split
  · exact nofun
  · rename_i propagate found
    intro _
    have wish : outletWish sheet part = { propagate := propagate.filter Making.isGiven } := by
      rw [outletWish, found]
      rfl
    rw [wish]
    cases propagate.filter Making.isGiven <;> rfl

/-- What settings want of a logger, whose handlers have these descriptions by number. -/
def Known.wish (known : Known) (describe : Nat → Handler) (part : Setting) : Wish :=
  (known.commonWish describe part).andThen (outletWish known.sheet part)

theorem grants_configureLogger (known : Known) (state : State) (start : Nat) (part : Setting) :
    Grants state.viewOf (known.wish (state.describedFrom start) part)
      (configureLogger (configureCommon (known.renumbered (start + ·))) known.sheet part) := by
  intro logger usable
  revert usable
  have common := grants_configureCommon known state start part logger
  unfold configureLogger
  split
  · split
    · rename_i configured done
      intro usable
      rw [done] at common
      rw [grants_configureOutlet known.sheet state part configured usable, common rfl, Known.wish,
        Wish.grant_andThen]
    · exact nofun
  · exact nofun

/-! ## Loggers that are named -/

section Granting

variable {first second : Common} {sheet : Sheet} {loggers after others changed : Loggers}
  {view mirrored : Logger → LoggerView}

/-- Settings grant one wish to a logger in both configurations. -/
theorem exists_wish_of_configureLoggers {parts : Option Setting} {names : List Value}
    (grants : ∀ part, ∃ wish, Grants view wish (configureLogger first sheet part) ∧
      Grants mirrored wish (configureLogger second sheet part))
    (done : configureLoggers first sheet parts loggers names = (.ok (), after))
    (redone : configureLoggers second sheet parts others names = (.ok (), changed)) (name : Text) :
    ∃ wish : Wish, view (after.get name) = wish.grant (view (loggers.get name)) ∧
      mirrored (changed.get name) = wish.grant (mirrored (others.get name)) := by
  induction names generalizing loggers others with
  | nil =>
    cases done
    cases redone
    exact ⟨{}, rfl, rfl⟩
  | cons named rest ih =>
    unfold configureLoggers at done redone
    dsimp only at done redone
    split at done
    · rename_i key part found
      simp only [found] at redone
      split at done
      · rename_i usable
        split at redone
        · rename_i reusable
          obtain ⟨wish, granted, regranted⟩ := grants part
          obtain ⟨further, after_eq, changed_eq⟩ := ih done redone
          rw [Loggers.get_set] at after_eq changed_eq
          by_cases same : Loggers.AreSame name key
          · rw [if_pos same] at after_eq changed_eq
            rw [granted _ usable, ← Loggers.get_eq_of_areSame _ same] at after_eq
            rw [regranted _ reusable, ← Loggers.get_eq_of_areSame _ same] at changed_eq
            refine ⟨wish.andThen further, ?_, ?_⟩
            · rw [after_eq, Wish.grant_andThen]
            · rw [changed_eq, Wish.grant_andThen]
          · rw [if_neg same] at after_eq changed_eq
            exact ⟨further, after_eq, changed_eq⟩
        · cases redone
      · cases done
    · cases done

/-- Loggers that settings do not name are left as they are. -/
theorem get_of_configureLoggers {parts : Option Setting} {names : List Value}
    (done : configureLoggers first sheet parts loggers names = (.ok (), after)) {name : Text}
    (unnamed : ∀ key, .text key ∈ names → ¬ Loggers.AreSame name key) :
    after.get name = loggers.get name := by
  induction names generalizing loggers with
  | nil =>
    cases done
    rfl
  | cons named rest ih =>
    unfold configureLoggers at done
    dsimp only at done
    split at done
    · rename_i key part found
      split at done
      · rw [ih done fun other member => unnamed other (List.mem_cons_of_mem _ member),
          Loggers.get_set, if_neg (unnamed key List.mem_cons_self)]
      · cases done
    · cases done

/-- Settings for the root grant one wish to it in both configurations. -/
theorem exists_wish_of_configureRoot
    (grants : ∀ part, ∃ wish, Grants view wish (first part) ∧ Grants mirrored wish (second part))
    (done : configureRoot first sheet loggers = (.ok (), after))
    (redone : configureRoot second sheet others = (.ok (), changed)) (name : Text) :
    ∃ wish : Wish, view (after.get name) = wish.grant (view (loggers.get name)) ∧
      mirrored (changed.get name) = wish.grant (mirrored (others.get name)) := by
  unfold configureRoot at done redone
  split at done
  · cases done
  · rename_i absent
    rw [absent] at redone
    cases done
    cases redone
    exact ⟨{}, rfl, rfl⟩
  · rename_i part found
    rw [found] at redone
    dsimp only at done redone
    split at done
    · rename_i entry rest value_eq
      rw [value_eq] at redone
      dsimp only at redone
      obtain ⟨wish, granted, regranted⟩ := grants part
      cases usable : (first part loggers.root).1 with
      | false => simp [usable] at done
      | true =>
        cases reusable : (second part others.root).1 with
        | false => simp [reusable] at redone
        | true =>
          simp only [usable, reusable, if_true, Prod.mk.injEq, true_and] at done redone
          subst done redone
          cases root : Loggers.namesRoot name with
          | true =>
            refine ⟨wish, ?_, ?_⟩
            · simpa [Loggers.get, root] using granted _ usable
            · simpa [Loggers.get, root] using regranted _ reusable
          | false => exact ⟨{}, by simp [Loggers.get, root], by simp [Loggers.get, root]⟩
    · rename_i unmapped
      split at redone
      · rename_i entry rest value_eq
        exact absurd value_eq (unmapped entry rest)
      · obtain rfl := congrArg Prod.snd done
        obtain rfl := congrArg Prod.snd redone
        exact ⟨{}, rfl, rfl⟩

/-- Settings for the root leave all others as they are. -/
theorem get_of_configureRoot (done : configureRoot first sheet loggers = (.ok (), after))
    {name : Text} (isNamed : Loggers.namesRoot name = false) :
    after.get name = loggers.get name := by
  have named_eq : after.named = loggers.named := by
    rw [show after = (configureRoot first sheet loggers).2 from (congrArg Prod.snd done).symm]
    unfold configureRoot
    split
    · rfl
    · rfl
    · dsimp only
      split <;> rfl
  simp [Loggers.get, isNamed, named_eq]

end Granting

end Logging
end PackageRepos
