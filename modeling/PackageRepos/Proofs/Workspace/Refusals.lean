import PackageRepos.Proofs.RepoOption.Refusal
import PackageRepos.Proofs.Workspace.Access

/-!
# When setting fails

A set fails for a reason that the entry, the option or the value gives, and it fails whenever there
is one. A set that fails leaves the workspace as it was. The failure is reported as a mistake of the
caller, unless the report cannot be put into words: then the attempt to do so is what fails.
-/

namespace PackageRepos
namespace Workspace

/-- The reasons for which a set is rejected as a mistake of the caller: the option is none of the
registered ones, the entry is attached to no file, or the option refuses the value. -/
inductive IsRejected (entry : Entry) : OptionArgument → Value → Prop
  | unregistered {argument : OptionArgument} {value : Value}
      (foreign : argument.isRegistered = false) : IsRejected entry argument value
  | detached {argument : OptionArgument} {value : Value} (fileless : entry.file = none) :
      IsRejected entry argument value
  | refused {option : RepoOption} {value : Value} (writable : option ≠ .id)
      (present : value ≠ .absent)
      (filled : option.kind = .list → value ≠ .list [] ∧ value ≠ .tuple [])
      (refuses : option.kind.Refuses value) : IsRejected entry (.registered option) value

/-- The set is one of the identifier of an attached entry. -/
inductive IsReadOnly (entry : Entry) : OptionArgument → Prop
  | identifier {file : Nat} (attached : entry.file = some file) :
      IsReadOnly entry (.registered .id)

/-- The reasons for which a rejection cannot be put into words: the argument can be neither looked
up nor shown, or the number refused has too many digits to be written down. -/
inductive IsWordless (entry : Entry) : OptionArgument → Value → Prop
  | faulty {argument : OptionArgument} {value : Value} {fault : ArgumentFault}
      (found : argument.fault? = some fault) : IsWordless entry argument value
  | long {option : RepoOption} {value : Value} {file : Nat} (attached : entry.file = some file)
      (long : option.kind.IsLong value) : IsWordless entry (.registered option) value

/-- Replacing a key file by itself changes nothing. -/
theorem setKeyFile_self {workspace : Workspace} {file : Nat} {loaded : LoadedFile}
    (found : workspace.fileAt? file = some loaded) :
    workspace.setKeyFile file loaded.keyFile = workspace := by
  have files : workspace.files.modify file (fun other => { other with keyFile := loaded.keyFile }) =
      workspace.files := by
    apply List.ext_getElem?
    intro index
    by_cases same : file = index
    · subst same
      have here : workspace.files[file]? = some loaded := found
      simp [here]
    · simp [same]
  rw [setKeyFile, files]

/-- A set of an attached entry changes the key file as the value asks for, or nothing at all. -/
theorem set_eq {workspace : Workspace} {entry : Entry} {file : Nat} {loaded : LoadedFile}
    (attached : entry.file = some file) (found : workspace.fileAt? file = some loaded)
    (plain : loaded.keyFile.Plain) (declared : entry.id ∈ loaded.keyFile.groupNames)
    (option : RepoOption) (value : Value) :
    workspace.set entry (.registered option) value =
      match option.spec.change value with
      | .error failure => (.error failure, workspace)
      | .ok change =>
        (.ok (), (workspace.setKeyFile file
          (loaded.keyFile.assign entry.id (Text.of option.key) change)).report
            [.setOption entry.id option.spec.key loaded.path.toText]) := by
  simp only [set, registered, attachedFile, attached, found]
  rw [OptionSpec.write_eq value (KeyFile.hasGroup_iff.mpr declared) (plain.named entry.id declared)]
  cases option.spec.change value with
  | error failure => simp only [setKeyFile_self found]
  | ok change => rfl

/-- What a set comes to. -/
inductive Setting (workspace : Workspace) (entry : Entry) (argument : OptionArgument)
    (value : Value) : Outcome Unit → Prop
  | rejected {error : RepoError} (category : error.category = .argument)
      (reason : IsRejected entry argument value) (told : ¬IsWordless entry argument value) :
      Setting workspace entry argument value (.error (.error error), workspace)
  | wordless (fault : ArgumentFault) (reason : IsWordless entry argument value) :
      Setting workspace entry argument value (.error (.argument fault), workspace)
  | readOnly {error : RepoError} (category : error.category = .readOnly)
      (reason : IsReadOnly entry argument) :
      Setting workspace entry argument value (.error (.error error), workspace)
  | done (after : Workspace) (accepted : ¬IsRejected entry argument value)
      (writable : ¬IsReadOnly entry argument) :
      Setting workspace entry argument value (.ok (), after)

/-- A rejected set is none of the identifier of an attached entry. -/
theorem IsRejected.not_isReadOnly {entry : Entry} {argument : OptionArgument} {value : Value}
    (rejected : IsRejected entry argument value) : ¬IsReadOnly entry argument := by
  rintro ⟨attached⟩
  cases rejected with
  | unregistered foreign => cases foreign
  | detached fileless => simp [attached] at fileless
  | refused writable => exact writable rfl

theorem isRejected_of_refuses {option : RepoOption} {value : Value} (entry : Entry)
    (writable : option.kind ≠ .id) (remains : option.kind.clears value = false)
    (refuses : option.kind.Refuses value) : IsRejected entry (.registered option) value := by
  have full :
      ¬(value = .absent ∨ option.kind = .list ∧ (value = .list [] ∨ value = .tuple [])) := by
    rw [← OptionKind.clears_iff, remains]
    exact Bool.false_ne_true
  refine .refused ?_ ?_ ?_ refuses
  · rintro rfl
    exact writable rfl
  · rintro rfl
    exact full (.inl rfl)
  · intro listed
    exact ⟨fun empty => full (.inr ⟨listed, .inl empty⟩),
      fun empty => full (.inr ⟨listed, .inr empty⟩)⟩

theorem not_isRejected_of_free {entry : Entry} {option : RepoOption} {value : Value} {file : Nat}
    (attached : entry.file = some file)
    (free : option.kind.clears value = true ∨ ¬option.kind.Refuses value) :
    ¬IsRejected entry (.registered option) value := by
  intro rejected
  cases rejected with
  | unregistered foreign => cases foreign
  | detached fileless => simp [attached] at fileless
  | refused writable present filled refuses =>
    rcases free with cleared | accepted
    · rcases OptionKind.clears_iff.mp cleared with rfl | ⟨listed, rfl | rfl⟩
      · exact present rfl
      · exact (filled listed).1 rfl
      · exact (filled listed).2 rfl
    · exact accepted refuses

/-- What cannot be put into words is rejected. -/
theorem IsWordless.isRejected {entry : Entry} {argument : OptionArgument} {value : Value}
    (wordless : IsWordless entry argument value) : IsRejected entry argument value := by
  cases wordless with
  | faulty found =>
    cases argument with
    | registered option => cases found
    | _ => exact .unregistered rfl
  | long attached long =>
    exact isRejected_of_refuses entry long.ne_id long.clears_eq_false long.refuses

/-- A registered option can be looked up, so that only too long a number leaves a set of it without
words. -/
theorem not_isWordless_of_short {entry : Entry} {option : RepoOption} {value : Value}
    (short : entry.file.isSome → ¬option.kind.IsLong value) :
    ¬IsWordless entry (.registered option) value := by
  intro wordless
  cases wordless with
  | faulty found => cases found
  | long attached long => exact short (by rw [attached]; rfl) long

/-- A set that does not reach a key file is rejected. -/
theorem setting_of_unreached {workspace : Workspace} {entry : Entry} {argument : OptionArgument}
    (lost : ∀ option, argument = .registered option → entry.file = none) (value : Value) :
    workspace.Setting entry argument value (workspace.set entry argument value) := by
  have unreached : ∀ option file loaded, argument = .registered option →
      entry.file = some file → workspace.fileAt? file ≠ some loaded := by
    intro option file _ same attached
    rw [lost option same] at attached
    cases attached
  obtain ⟨failure, cause, done, -⟩ := set_of_detached unreached value
  rw [done]
  cases cause with
  | faulty found => exact .wordless _ (.faulty found)
  | mistaken sound category =>
    cases argument with
    | registered option =>
      have detached := lost option rfl
      exact .rejected category (.detached detached)
        (not_isWordless_of_short fun attached => by simp [detached] at attached)
    | _ =>
      refine .rejected category (.unregistered rfl) fun wordless => ?_
      cases wordless with
      | faulty found => simp [sound] at found

/-- Whatever is set, the entry, the option and the value decide what comes of it. -/
theorem Coherent.setting_set {workspace : Workspace} (coherent : workspace.Coherent) {handle : Nat}
    {entry : Entry} (stands : workspace.entryAt? handle = some entry) (argument : OptionArgument)
    (value : Value) :
    workspace.Setting entry argument value (workspace.set entry argument value) := by
  cases argument with
  | registered option =>
    cases attached : entry.file with
    | none => exact setting_of_unreached (fun _ _ => attached) value
    | some file =>
      obtain ⟨number, listed⟩ := coherent.attached handle entry file stands attached
      obtain ⟨loaded, found⟩ := coherent.exists_fileAt? listed
      have changing := option.spec.changing_change value
      rw [set_eq attached found (coherent.plain file loaded found)
        (coherent.declared stands attached found)]
      generalize option.spec.change value = change at changing
      cases changing with
      | fixed read_only =>
        obtain rfl : option = .id := by
          by_contra other
          exact RepoOption.kind_ne_id other read_only
        exact .readOnly rfl (.identifier attached)
      | refused problem writable remains refuses short =>
        exact .rejected rfl (isRejected_of_refuses entry writable remains refuses)
          (not_isWordless_of_short fun _ => short)
      | untold long => exact .wordless _ (.long attached long)
      | done change writable free =>
        refine .done _ (not_isRejected_of_free attached free) ?_
        rintro ⟨-⟩
        exact writable rfl
  | _ =>
    refine setting_of_unreached ?_ value
    intro option same
    cases same

/-- The outcome tells what comes of a set, since no two of the reasons hold at once. -/
theorem Setting.exactly {workspace : Workspace} {entry : Entry} {argument : OptionArgument}
    {value : Value} {outcome : Outcome Unit}
    (setting : workspace.Setting entry argument value outcome) :
    ((∃ (error : RepoError) (after : Workspace), error.category = .argument ∧
        outcome = (.error (.error error), after)) ↔
        IsRejected entry argument value ∧ ¬IsWordless entry argument value) ∧
      ((∃ (error : RepoError) (after : Workspace), error.category = .readOnly ∧
          outcome = (.error (.error error), after)) ↔ IsReadOnly entry argument) ∧
      ((∃ after, outcome = (.ok (), after)) ↔
        ¬IsRejected entry argument value ∧ ¬IsReadOnly entry argument) ∧
      ∀ failure after, outcome = (.error failure, after) → after = workspace := by
  cases setting with
  | @rejected error category reason told =>
    have writable := reason.not_isReadOnly
    refine ⟨⟨fun _ => ⟨reason, told⟩, fun _ => ⟨error, _, category, rfl⟩⟩, ?_, ?_, ?_⟩
    · refine ⟨?_, fun fixed => absurd fixed writable⟩
      rintro ⟨_, _, other, ⟨⟩⟩
      simp [category] at other
    · simp [reason]
    · rintro _ _ ⟨⟩
      rfl
  | wordless fault reason =>
    have rejected := reason.isRejected
    refine ⟨by simp [reason], ?_, by simp [rejected], ?_⟩
    · simp [rejected.not_isReadOnly]
    · rintro _ _ ⟨⟩
      rfl
  | @readOnly error category reason =>
    have accepted : ¬IsRejected entry argument value :=
      fun rejected => rejected.not_isReadOnly reason
    refine ⟨?_, ⟨fun _ => reason, fun _ => ⟨error, _, category, rfl⟩⟩, ?_, ?_⟩
    · refine ⟨?_, fun rejected => absurd rejected.1 accepted⟩
      rintro ⟨_, _, other, ⟨⟩⟩
      simp [category] at other
    · simp [reason]
    · rintro _ _ ⟨⟩
      rfl
  | done after accepted writable => simp [accepted, writable]

/-- Wherever a run leads, a set fails for just the reasons that there are, and leaves everything as
it was then. Its error tells a mistake of the caller from a write to the read-only option, and there
is one exactly as long as the mistake can be put into words. -/
theorem refusals_of_run {blank : Workspace} (fresh : blank.IsFresh) (operations : List Operation)
    {handle : Nat} {entry : Entry}
    (stands : (blank.run operations).entryAt? handle = some entry) (argument : OptionArgument)
    (value : Value) :
    let workspace := blank.run operations
    ((∃ (error : RepoError) (after : Workspace), error.category = .argument ∧
        workspace.set entry argument value = (.error (.error error), after)) ↔
        IsRejected entry argument value ∧ ¬IsWordless entry argument value) ∧
      ((∃ (error : RepoError) (after : Workspace), error.category = .readOnly ∧
          workspace.set entry argument value = (.error (.error error), after)) ↔
        IsReadOnly entry argument) ∧
      ((∃ after, workspace.set entry argument value = (.ok (), after)) ↔
        ¬IsRejected entry argument value ∧ ¬IsReadOnly entry argument) ∧
      ∀ failure after, workspace.set entry argument value = (.error failure, after) →
        after = workspace :=
  ((fresh.coherent.of_run operations).1.setting_set stands argument value).exactly

/-- A text is no cost: it is rejected, and nothing changes. -/
theorem plain_text_refusals : ∃ entry error after,
    ((withFile sampleName plainText).run [.parse 0 sampleName]).entryAt? 0 = some entry ∧
      error.category = .argument ∧
      ((withFile sampleName plainText).run [.parse 0 sampleName]).set entry (.registered .cost)
        (.text (Text.of "x")) = (.error (.error error), after) ∧
      after = (withFile sampleName plainText).run [.parse 0 sampleName] := by
  have fresh : (withFile sampleName plainText).IsFresh := ⟨rfl, rfl, rfl⟩
  have stands := entryAt?_plainText
  have rejected : IsRejected { id := Text.of "r", file := some 0 } (.registered .cost)
      (.text (Text.of "x")) := by
    refine .refused (by decide) (by simp) (by simp) (.mistyped fun takes => ?_)
    cases takes
  have told : ¬IsWordless { id := Text.of "r", file := some 0 } (.registered .cost)
      (.text (Text.of "x")) :=
    not_isWordless_of_short fun _ => OptionKind.not_isLong_of_ne nofun
  obtain ⟨reports, -, -, unchanged⟩ := refusals_of_run fresh [.parse 0 sampleName] stands
    (.registered .cost) (.text (Text.of "x"))
  obtain ⟨error, after, category, failed⟩ := reports.mpr ⟨rejected, told⟩
  exact ⟨_, error, after, stands, category, failed, unchanged _ _ failed⟩

/-- A cost out of range with too many digits is refused, and so is an option whose key cannot be
looked up, but neither is reported as a mistake of the caller. -/
theorem huge_cost_escapes : ∃ entry,
    let workspace := (withFile sampleName plainText).run [.parse 0 sampleName]
    workspace.entryAt? 0 = some entry ∧
      (IsRejected entry (.registered .cost) (.int (Nat.pow 10 Numeral.digitLimit)) ∧
        workspace.set entry (.registered .cost) (.int (Nat.pow 10 Numeral.digitLimit)) =
          (.error (.argument .unshowable), workspace)) ∧
      IsRejected entry (.misnamed .text (.list [.text (Text.of "x")])) (.text (Text.of "v")) ∧
      workspace.set entry (.misnamed .text (.list [.text (Text.of "x")])) (.text (Text.of "v")) =
        (.error (.argument (.unkeyable "list")), workspace) := by
  have fresh : (withFile sampleName plainText).IsFresh := ⟨rfl, rfl, rfl⟩
  have coherent := (fresh.coherent.of_run [.parse 0 sampleName]).1
  have stands := entryAt?_plainText
  have long : RepoOption.cost.kind.IsLong (.int (Nat.pow 10 Numeral.digitLimit)) :=
    ⟨_, rfl, .int32 _, Numeral.canWrite_ten_pow le_rfl⟩
  have rejected := isRejected_of_refuses { id := Text.of "r", file := some 0 } long.ne_id
    long.clears_eq_false long.refuses
  refine ⟨_, stands, ⟨rejected, ?_⟩, .unregistered rfl, rfl⟩
  obtain ⟨number, listed⟩ := coherent.attached _ _ _ stands rfl
  obtain ⟨loaded, found⟩ := coherent.exists_fileAt? listed
  rw [set_eq rfl found (coherent.plain _ loaded found) (coherent.declared stands rfl found),
    OptionSpec.change_of_isLong long]

end Workspace
end PackageRepos
