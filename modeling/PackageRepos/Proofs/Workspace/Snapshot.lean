import PackageRepos.Proofs.RepoOption.Range
import PackageRepos.Workspace.Options

/-!
# Snapshots

A snapshot goes through all options in their order. It fails with the first one that cannot be read
for another reason than not being set; otherwise it holds what reading each of them yields, or the
fallback, and all its values are in range.
-/

namespace PackageRepos

/-- An option is not set, and nothing else is wrong. -/
def Failure.IsNotSet (failure : Failure) : Prop :=
  ∃ error : RepoError, failure = .error error ∧ error.category = .notSet

namespace Workspace

variable {workspace : Workspace} {entry : Entry} {option : RepoOption} {failure : Failure}
  {value : Value}

/-! ## Values that are read -/

theorem explain_eq_ok {spec : OptionSpec} {path : Text}
    (explained : explain spec path failure = .ok value) :
    spec.hasDefault = true ∧ value = spec.default := by
  unfold explain at explained
  split at explained
  · split at explained
    · rename_i set
      cases explained
      exact ⟨set, rfl⟩
    · cases explained
  · cases explained
  · split at explained <;> cases explained
  · cases explained

theorem fits_of_read {keyFile : KeyFile} {id : Text}
    (read : option.spec.read keyFile (.text id) = .ok value) : option.kind.Fits value := by
  unfold OptionSpec.read at read
  split at read
  · rename_i fixed
    cases read
    rw [← option.spec_kind, fixed]
    exact ⟨id, rfl⟩
  · split at read
    · cases read
    · cases read
    · exact OptionKind.fits_of_decode read

/-- Whatever is stored in the file, a value that is read is one that the option can have. -/
theorem fits_of_get (read : workspace.get entry (.registered option) = .ok value) :
    option.kind.Fits value := by
  unfold get registered at read
  cases attached : workspace.attachedFile entry with
  | error failure => simp [attached] at read
  | ok found =>
    simp only [attached, valueIn] at read
    split at read
    · rename_i stored
      cases read
      exact fits_of_read stored
    · obtain ⟨set, rfl⟩ := explain_eq_ok read
      exact RepoOption.fits_default set

theorem eq_detached_of_attachedFile (detached : workspace.attachedFile entry = .error failure) :
    failure = .error (.detached entry.id) := by
  unfold attachedFile at detached
  split at detached
  · split at detached <;> cases detached
    rfl
  · cases detached
    rfl

/-- The identifier is always set. -/
theorem ne_id_of_isNotSet (unread : workspace.get entry (.registered option) = .error failure)
    (unset : failure.IsNotSet) : option ≠ .id := by
  rintro rfl
  obtain ⟨error, rfl, category⟩ := unset
  unfold get registered at unread
  cases attached : workspace.attachedFile entry with
  | error reason =>
    simp only [attached, Except.error.injEq] at unread
    obtain rfl := Failure.error.inj (unread.symm.trans (eq_detached_of_attachedFile attached))
    cases category
  | ok found =>
    rw [attached] at unread
    cases unread

/-! ## Single options of a snapshot -/

/-- Reading an option fails, and not just because it is not set. -/
def Breaks (workspace : Workspace) (entry : Entry) (failure : Failure) (option : RepoOption) :
    Prop :=
  workspace.get entry (.registered option) = .error failure ∧ ¬failure.IsNotSet

/-- What an option has in a snapshot: the value that is read, or the fallback of an option that is
not set. -/
inductive Settled (workspace : Workspace) (entry : Entry) (option : RepoOption) : Value → Prop
  | read {value : Value} (read : workspace.get entry (.registered option) = .ok value) :
      Settled workspace entry option value
  | fallback {failure : Failure}
      (unread : workspace.get entry (.registered option) = .error failure)
      (unset : failure.IsNotSet) : Settled workspace entry option option.spec.fallback

theorem settled_of_settledValue (settled : workspace.settledValue entry option = .ok value) :
    workspace.Settled entry option value := by
  unfold settledValue at settled
  split at settled
  · rename_i read
    cases settled
    exact .read read
  · rename_i error unread
    split at settled
    · rename_i category
      cases settled
      exact .fallback unread ⟨error, rfl, category⟩
    · cases settled
  · cases settled

theorem settledValue_eq_error_iff :
    workspace.settledValue entry option = .error failure ↔
      workspace.Breaks entry failure option := by
  unfold settledValue Breaks
  split
  · rename_i read
    simp [read]
  · rename_i error unread
    rw [unread, Except.error.injEq]
    split
    · rename_i category
      refine ⟨nofun, ?_⟩
      rintro ⟨rfl, set⟩
      exact absurd ⟨error, rfl, category⟩ set
    · rename_i category
      rw [Except.error.injEq]
      refine ⟨fun same => ⟨same, ?_⟩, And.left⟩
      rintro ⟨other, rfl, unset⟩
      exact category (Failure.error.inj same ▸ unset)
  · rename_i reason foreign unread
    rw [unread]
    refine ⟨fun same => ⟨same, ?_⟩, And.left⟩
    rintro ⟨error, rfl, -⟩
    exact foreign error (Except.error.inj same)

/-- A value of an option other than a text is in range, and that of a text may be absent. -/
theorem Settled.fits (settled : workspace.Settled entry option value) :
    option.kind.Fits value ∨ (option.kind = .text ∧ value = .absent) := by
  cases settled with
  | read read => exact .inl (fits_of_get read)
  | fallback unread unset => exact RepoOption.fits_fallback (ne_id_of_isNotSet unread unset)

/-- The options that tell where the metadata of a repository are. -/
def locators : List RepoOption := [.baseurl, .mirrorlist, .metalink]

theorem textual_of_mem_locators : ∀ option ∈ locators,
    (option.kind = .text ∨ option.kind = .list) ∧ option.spec.fallback.isTrue = false := by
  decide

/-- A locator counts when it is set to something. -/
theorem Settled.isTrue_iff (settled : workspace.Settled entry option value)
    (locates : option ∈ locators) :
    value.isTrue = true ↔
      ∃ found, workspace.get entry (.registered option) = .ok found ∧
        found ≠ .text [] ∧ found ≠ .list [] := by
  obtain ⟨textual, nothing⟩ := textual_of_mem_locators option locates
  cases settled with
  | read read => simp [read, (fits_of_get read).isTrue_iff textual]
  | fallback unread unset => simp [unread, nothing]

/-! ## All options -/

/-- The failure is that of the first of the options that breaks. -/
def BreaksFirst (workspace : Workspace) (entry : Entry) (failure : Failure)
    (options : List RepoOption) : Prop :=
  ∃ before option after, options = before ++ option :: after ∧
    workspace.Breaks entry failure option ∧
    ∀ earlier ∈ before, ∀ other, ¬workspace.Breaks entry other earlier

theorem breaksFirst_cons {options : List RepoOption} :
    workspace.BreaksFirst entry failure (option :: options) ↔
      workspace.Breaks entry failure option ∨
        (∀ other, ¬workspace.Breaks entry other option) ∧
          workspace.BreaksFirst entry failure options := by
  constructor
  · rintro ⟨before, broken, after, split, breaks, fine⟩
    rcases List.cons_eq_append_iff.mp split with ⟨rfl, same⟩ | ⟨earlier, rfl, later⟩
    · cases same
      exact .inl breaks
    · obtain ⟨first, others⟩ := List.forall_mem_cons.mp fine
      exact .inr ⟨first, earlier, broken, after, later, breaks, others⟩
  · rintro (breaks | ⟨fine, before, broken, after, rfl, breaks, others⟩)
    · exact ⟨[], option, options, rfl, breaks, List.forall_mem_nil _⟩
    · exact ⟨option :: before, broken, after, rfl, breaks,
        List.forall_mem_cons.mpr ⟨fine, others⟩⟩

/-- Where an option breaks, one is the first to do so. -/
theorem exists_breaksFirst {options : List RepoOption} (member : option ∈ options)
    (breaks : workspace.Breaks entry failure option) :
    ∃ first, workspace.BreaksFirst entry first options := by
  induction options with
  | nil => cases member
  | cons head rest ih =>
    by_cases fine : ∀ other, ¬workspace.Breaks entry other head
    · rcases List.mem_cons.mp member with rfl | later
      · exact absurd breaks (fine failure)
      · obtain ⟨first, breaks_first⟩ := ih later
        exact ⟨first, breaksFirst_cons.mpr (.inr ⟨fine, breaks_first⟩)⟩
    · obtain ⟨other, head_breaks⟩ := not_forall_not.mp fine
      exact ⟨other, breaksFirst_cons.mpr (.inl head_breaks)⟩

theorem settledValues_eq_error_iff {options : List RepoOption} :
    workspace.settledValues entry options = .error failure ↔
      workspace.BreaksFirst entry failure options := by
  induction options with
  | nil => simp [settledValues, BreaksFirst]
  | cons option rest ih =>
    rw [breaksFirst_cons, settledValues]
    cases settled : workspace.settledValue entry option with
    | error reason =>
      have breaks := settledValue_eq_error_iff.mp settled
      simp only [Except.error.injEq]
      constructor
      · rintro rfl
        exact .inl breaks
      · rintro (again | ⟨fine, -⟩)
        · exact Except.error.inj (breaks.1.symm.trans again.1)
        · exact absurd breaks (fine reason)
    | ok value =>
      have fine : ∀ other, ¬workspace.Breaks entry other option := by
        intro other breaks
        rw [settledValue_eq_error_iff.mpr breaks] at settled
        cases settled
      simp only [fine, false_or, not_false_eq_true, implies_true, true_and, ← ih]
      cases workspace.settledValues entry rest <;> simp [Except.map]

theorem settled_of_settledValues {options : List RepoOption} {values : List (RepoOption × Value)}
    (settled : workspace.settledValues entry options = .ok values) :
    values.map Prod.fst = options ∧
      ∀ pair ∈ values, workspace.Settled entry pair.1 pair.2 := by
  induction options generalizing values with
  | nil =>
    cases settled
    exact ⟨rfl, List.forall_mem_nil _⟩
  | cons option rest ih =>
    rw [settledValues] at settled
    split at settled
    · cases settled
    · rename_i value first
      cases others : workspace.settledValues entry rest with
      | error failure =>
        rw [others] at settled
        cases settled
      | ok found =>
        rw [others] at settled
        cases settled
        obtain ⟨keys, fields⟩ := ih others
        exact ⟨congrArg (option :: ·) keys,
          List.forall_mem_cons.mpr ⟨settled_of_settledValue first, fields⟩⟩

/-- What a snapshot says of an entry: for every option, in order, what reading it yields or else the
fallback, all in range, and whether one of the locators is set to something. -/
structure Snapshot.Tells (workspace : Workspace) (entry : Entry) (snapshot : Snapshot) : Prop where
  complete : snapshot.values.map Prod.fst = RepoOption.all
  fields : ∀ option, workspace.Settled entry option (snapshot.value option)
  ranges : ∀ option, option.kind.Fits (snapshot.value option) ∨
    (option.kind = .text ∧ snapshot.value option = .absent)
  hasSource : snapshot.hasSource = true ↔
    ∃ option ∈ locators, ∃ value, workspace.get entry (.registered option) = .ok value ∧
      value ≠ .text [] ∧ value ≠ .list []

theorem Snapshot.tells_of_settled {snapshot : Snapshot}
    (complete : snapshot.values.map Prod.fst = RepoOption.all)
    (settled : ∀ pair ∈ snapshot.values, workspace.Settled entry pair.1 pair.2) :
    snapshot.Tells workspace entry := by
  have fields : ∀ option, workspace.Settled entry option (snapshot.value option) := by
    intro option
    have known : option ∈ snapshot.values.map Prod.fst := complete ▸ option.mem_all
    obtain ⟨pair, member, same⟩ := List.mem_map.mp known
    have listed : (snapshot.values.lookup option).isSome = true :=
      List.lookup_isSome_iff.mpr ⟨pair, member, by simp [same]⟩
    obtain ⟨value, found⟩ := Option.isSome_iff_exists.mp listed
    obtain ⟨before, after, split, -⟩ := List.lookup_eq_some_iff.mp found
    rw [Snapshot.value, found]
    exact settled (option, value) (by simp [split])
  refine ⟨complete, fields, fun option => (fields option).fits, ?_⟩
  have tells : ∀ option ∈ locators, (snapshot.value option).isTrue = true ↔ _ :=
    fun option => (fields option).isTrue_iff
  simp only [locators, List.forall_mem_cons] at tells
  simp [Snapshot.hasSource, locators, tells, or_assoc]

/-- A snapshot can be taken exactly when no option breaks, and fails with the first one that does;
one that was taken tells what the options are. -/
theorem snapshot_tells (workspace : Workspace) (entry : Entry) :
    ((∃ snapshot, workspace.snapshot entry = .ok snapshot) ↔
      ∀ option failure, ¬workspace.Breaks entry failure option) ∧
    (∀ failure, workspace.snapshot entry = .error failure ↔
      workspace.BreaksFirst entry failure RepoOption.all) ∧
    ∀ snapshot, workspace.snapshot entry = .ok snapshot → snapshot.Tells workspace entry := by
  have fails : ∀ failure, workspace.snapshot entry = .error failure ↔
      workspace.BreaksFirst entry failure RepoOption.all := by
    intro failure
    rw [← settledValues_eq_error_iff, snapshot]
    cases workspace.settledValues entry RepoOption.all <;> simp [Except.map]
  refine ⟨⟨?_, fun fine => ?_⟩, fails, ?_⟩
  · rintro ⟨snapshot, taken⟩ option failure breaks
    obtain ⟨first, breaks_first⟩ := exists_breaksFirst option.mem_all breaks
    rw [(fails first).mpr breaks_first] at taken
    cases taken
  · cases taken : workspace.snapshot entry with
    | ok snapshot => exact ⟨snapshot, rfl⟩
    | error failure =>
      obtain ⟨before, option, after, -, breaks, -⟩ := (fails failure).mp taken
      exact absurd breaks (fine option failure)
  · intro snapshot taken
    cases settled : workspace.settledValues entry RepoOption.all with
    | error failure =>
      rw [Workspace.snapshot, settled] at taken
      cases taken
    | ok values =>
      rw [Workspace.snapshot, settled] at taken
      cases taken
      obtain ⟨complete, fields⟩ := settled_of_settledValues settled
      exact Snapshot.tells_of_settled complete fields

end Workspace
end PackageRepos
