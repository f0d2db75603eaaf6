import PackageRepos.Proofs.KeyFile.Assigning
import PackageRepos.Proofs.RepoOption.Codec
import PackageRepos.RepoOption.Access

/-!
# What writing an option does to a key file

A write changes the entry of its option in a group or fails and changes nothing, and which of the
two it does is a matter of the value alone. What it stores can be held by a file.
-/

namespace PackageRepos
namespace KeyFile

theorem ne_sharedGroup {group : Text} (named : namesShared group = false) :
    group ≠ sharedGroup := by
  rintro rfl
  simp [namesShared] at named

/-- A text is set in a declared group right away. -/
theorem setText_of_declared {keyFile : KeyFile} {group : Text}
    (declared : keyFile.hasGroup group = true) (named : namesShared group = false)
    (key value : Text) :
    keyFile.setText (.text group) (.text key) (.text value) =
      (.ok (), keyFile.put group key value) := by
  simp [setText, ne_sharedGroup named, declare, declared]

theorem texts_map_text (index : Nat) (items : List Text) :
    listTexts.texts index (items.map .text) = .ok items := by
  induction items generalizing index with
  | nil => rfl
  | cons item rest ih => simp [listTexts.texts, ih, Except.map]

end KeyFile

/-- The value holds nothing: it is absent, or an empty sequence. -/
def Value.IsVoid (value : Value) : Prop :=
  value = .absent ∨ value = .list [] ∨ value = .tuple []

namespace OptionSpec

/-- What a value does to the entry of an option: the text to be stored, nothing where the entry is
removed, or why the value is refused. -/
def change (spec : OptionSpec) (value : Value) : Except Failure (Option Text) :=
  if spec.kind = .id then .error (.error .readOnly)
  else if spec.kind.clears value then .ok none
  else
    match spec.validate value with
    | .ok kept => .ok (some (spec.kind.encoded kept))
    | .error failure => .error failure

theorem kind_ne_id_of_change {spec : OptionSpec} {value : Value} {change : Option Text}
    (changed : spec.change value = .ok change) : spec.kind ≠ .id := by
  intro fixed
  simp [OptionSpec.change, fixed] at changed

theorem validate_eq_ok {spec : OptionSpec} {value kept : Value}
    (validated : spec.validate value = .ok kept) : OptionKind.Accepts spec.kind value kept := by
  unfold validate at validated
  split at validated
  · rename_i checked
    cases validated
    exact OptionKind.accepts_of_check checked
  · simp at validated
  · split at validated <;> simp at validated

/-- A value with nothing in it can only remove an entry. -/
theorem change_of_isVoid {spec : OptionSpec} {value : Value} {change : Option Text}
    (void : value.IsVoid) (changed : spec.change value = .ok change) : change = none := by
  unfold OptionSpec.change at changed
  split at changed
  · simp at changed
  · split at changed
    · exact (Except.ok.inj changed).symm
    · rename_i remains
      cases validated : spec.validate value with
      | error error => simp [validated] at changed
      | ok kept =>
        have accepted := validate_eq_ok validated
        generalize spec.kind = kind at accepted remains
        rcases void with rfl | rfl | rfl
        · simp [OptionKind.clears] at remains
        · cases accepted
          simp [OptionKind.clears] at remains
        · cases accepted
          simp [OptionKind.clears] at remains

/-- Any other value is stored as its text. -/
theorem change_of_not_isVoid {spec : OptionSpec} {value : Value} {change : Option Text}
    (full : ¬value.IsVoid) (changed : spec.change value = .ok change) :
    OptionKind.Accepts spec.kind value (OptionKind.keptValue value) ∧
      change = some (spec.kind.encoded (OptionKind.keptValue value)) := by
  have remains : spec.kind.clears value = false := by
    unfold OptionKind.clears
    split
    · exact absurd (.inl rfl) full
    · exact absurd (.inr (.inl rfl)) full
    · exact absurd (.inr (.inr rfl)) full
    · rfl
  unfold OptionSpec.change at changed
  split at changed
  · simp at changed
  · rw [remains, if_neg (by simp)] at changed
    cases validated : spec.validate value with
    | error error => simp [validated] at changed
    | ok kept =>
      have accepted := validate_eq_ok validated
      rw [validated] at changed
      rw [← accepted.kept_eq]
      exact ⟨accepted, (Except.ok.inj changed).symm⟩

theorem ofEdited_setText {keyFile : KeyFile} {group : Text}
    (declared : keyFile.hasGroup group = true) (named : KeyFile.namesShared group = false)
    (key text : Text) :
    ofEdited (keyFile.setText (.text group) (.text key) (.text text)) =
      (.ok (), keyFile.put group key text) := by
  rw [KeyFile.setText_of_declared declared named]
  rfl

/-- An accepted value is stored as its text. -/
theorem store_of_accepts {spec : OptionSpec} {keyFile : KeyFile} {group : Text} {value kept : Value}
    (declared : keyFile.hasGroup group = true) (named : KeyFile.namesShared group = false)
    (accepted : OptionKind.Accepts spec.kind value kept) :
    spec.store keyFile (.text group) kept =
      (.ok (), keyFile.put group spec.key (spec.kind.encoded kept)) := by
  have stored := fun text => ofEdited_setText declared named spec.key text
  obtain ⟨key, kind, default⟩ := spec
  simp only at accepted stored
  cases accepted with
  | text trimmed untabbed unbroken => simp [store, stored, OptionKind.encoded, Value.plain]
  | list sequence proper =>
    simp only [store, KeyFile.setList, KeyFile.listTexts, KeyFile.texts_map_text, stored,
      OptionKind.encoded, Value.map_plain_text]
  | bool flag => simp [store, KeyFile.setFlag, stored, OptionKind.encoded, Value.isTrue]
  | @number _ number numeric least most =>
    have shown : (Value.int number).isShowable = true :=
      OptionKind.canWrite_of_numberRange numeric least most
    rcases numeric with rfl | rfl | rfl <;>
      simp [store, KeyFile.setNumber, shown, stored, OptionKind.encoded]
  | address family => simp [store, stored, OptionKind.encoded]

/-- A write does what the value asks for, or leaves the key file as it is. -/
theorem write_eq {spec : OptionSpec} {keyFile : KeyFile} {group : Text} (value : Value)
    (declared : keyFile.hasGroup group = true) (named : KeyFile.namesShared group = false) :
    spec.write keyFile (.text group) value =
      match spec.change value with
      | .ok change => (.ok (), keyFile.assign group spec.key change)
      | .error failure => (.error failure, keyFile) := by
  unfold write change
  by_cases fixed : spec.kind = .id
  · simp [fixed]
  · by_cases cleared : spec.kind.clears value = true
    · simp only [fixed, cleared, if_true, if_false, KeyFile.removeEntry, declared]
      rfl
    · simp only [fixed, cleared, if_false]
      cases validated : spec.validate value with
      | error error => rfl
      | ok kept => exact store_of_accepts declared named (validate_eq_ok validated)

/-- Whatever a write does, it declares no group and shares no entry. -/
theorem plain_write {spec : OptionSpec} {keyFile : KeyFile} {group : Text} (plain : keyFile.Plain)
    (declared : group ∈ keyFile.groupNames) (value : Value) :
    (spec.write keyFile (.text group) value).2.Plain ∧
      (spec.write keyFile (.text group) value).2.groupNames = keyFile.groupNames := by
  rw [write_eq value (KeyFile.hasGroup_iff.mpr declared) (plain.named group declared)]
  cases spec.change value with
  | error failure => exact ⟨plain, rfl⟩
  | ok change =>
    exact ⟨plain.assign declared spec.key change,
      KeyFile.groupNames_assign (KeyFile.hasGroup_iff.mpr declared) spec.key change⟩

end OptionSpec

namespace RepoOption

theorem kind_ne_id {option : RepoOption} (other : option ≠ .id) : option.kind ≠ .id := by
  cases option with
  | id => exact absurd rfl other
  | _ => simp [kind]

/-- The keys of options hold nothing that means anything to a line of a file. -/
theorem of_mem_key {option : RepoOption} {char : Char} (member : char ∈ Text.of option.key) :
    Text.isBlank char = false ∧ char ≠ '=' ∧ char ≠ '#' ∧ char ≠ '[' := by
  have plain : (Text.of option.key).all (fun char =>
      !Text.isBlank char && char != '=' && char != '#' && char != '[') = true := by
    cases option <;> decide
  have here := List.all_eq_true.mp plain char member
  simpa [and_assoc] using here

theorem isEntry_key (option : RepoOption) {value : Text} (trimmed : Text.IsTrimmed value)
    (single : '\n' ∉ value) : KeyFile.IsEntry (Text.of option.key) value where
  nonempty := by cases option <;> decide
  trimmed := Text.isTrimmed_of_solid fun char member => (of_mem_key member).1
  undivided member := (of_mem_key member).2.1 rfl
  single member := absurd (of_mem_key member).1 (by decide)
  uncommented := by
    cases found : Text.of option.key with
    | nil => rfl
    | cons char rest =>
      have member : char ∈ Text.of option.key := by simp [found]
      simpa [KeyFile.isComment] using (of_mem_key member).2.2.1
  value_trimmed := trimmed
  value_single := single
  unbracketed rest found := by
    have member : '[' ∈ Text.of option.key := by simp [found]
    exact absurd rfl (of_mem_key member).2.2.2

/-- Files can hold a text for an option if it is trimmed and stands on one line without tabs. -/
theorem storable_key (option : RepoOption) {text : Text} (trimmed : Text.IsTrimmed text)
    (single : '\n' ∉ text) (untabbed : '\t' ∉ text) (returnless : '\r' ∉ text) :
    KeyFile.Storable (Text.of option.key) text := by
  have blank_free : ∀ blank : Char, Text.isBlank blank = true → blank ∉ Text.of option.key := by
    intro blank is_blank member
    have solid := (of_mem_key member).1
    simp [is_blank] at solid
  exact
    { option.isEntry_key trimmed single with
      untabbed := ⟨blank_free _ (by decide), untabbed⟩
      returnless := ⟨blank_free _ (by decide), returnless⟩ }

/-- Files can hold what an option stores for an accepted value. -/
theorem storable_of_change {option : RepoOption} {value : Value} {text : Text}
    (changed : option.spec.change value = .ok (some text)) :
    KeyFile.Storable (Text.of option.key) text := by
  have full : ¬value.IsVoid := fun void => by
    simpa using OptionSpec.change_of_isVoid void changed
  obtain ⟨accepted, stored⟩ := OptionSpec.change_of_not_isVoid full changed
  obtain ⟨trimmed, unbroken, untabbed, returnless⟩ := accepted.encoded_proper
  obtain rfl := Option.some.inj stored
  exact option.storable_key trimmed unbroken untabbed returnless

end RepoOption
end PackageRepos
