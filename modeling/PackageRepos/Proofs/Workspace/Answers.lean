import PackageRepos.Proofs.RepoOption.Legality
import PackageRepos.Proofs.Workspace.Access

/-!
# How reading an option answers

An option of a section has a value, is not set, or holds an invalid text, and callers tell the three
apart. A text whose integer has too many digits falls outside of this order: the failure to read it
is passed on as it is.
-/

namespace PackageRepos
namespace Workspace

/-- An outcome is in order: it tells whether the option has a value, is not set or is invalid, with
the path of the file and the key of the option in every error, and tells it of just the options of
which it is true. -/
structure AnswersExactly (path : Files.Path) (option : RepoOption) (stored : Option Text)
    (outcome : Except Failure Value) : Prop where
  closed : (∃ value, outcome = .ok value) ∨ ∃ error : RepoError, outcome = .error (.error error) ∧
    (error.category = .notSet ∨ error.category = .value) ∧ error.path = some path.toText ∧
    error.key = some (Text.of option.key)
  not_set : (∃ error : RepoError, outcome = .error (.error error) ∧ error.category = .notSet) ↔
    stored = none ∧ option.spec.hasDefault = false
  default : stored = none →
    (outcome = .ok option.spec.default ↔ option.spec.hasDefault = true)
  value : ∀ raw, stored = some raw → ∀ value, outcome = .ok value → option.kind.Denotes raw value
  invalid : (∃ error : RepoError, outcome = .error (.error error) ∧ error.category = .value) ↔
    ∃ raw, stored = some raw ∧ ¬option.kind.IsLegal raw

/-- Where nothing is stored, the default is all that matters. -/
theorem answersExactly_none {option : RepoOption} (writable : option.kind ≠ .id)
    (path : Files.Path) (id : Text) :
    AnswersExactly path option none (outcomeOf (some path) id option none) := by
  rw [outcomeOf]
  simp only [writable, if_false, explain]
  cases default : option.spec.hasDefault with
  | true =>
    rw [if_pos rfl]
    exact
      { closed := .inl ⟨_, rfl⟩
        not_set := by simp [default]
        default := by simp [default]
        value := by simp
        invalid := by simp }
  | false =>
    rw [if_neg (by simp)]
    exact
      { closed := .inr ⟨_, rfl, .inl rfl, rfl, rfl⟩
        not_set := by simp [default]
        default := by simp [default]
        value := by simp
        invalid := by simp }

theorem answersExactly_some {option : RepoOption} (writable : option.kind ≠ .id)
    (path : Files.Path) (id : Text) {raw : Text} (short : ¬option.kind.IsOverlong raw) :
    AnswersExactly path option (some raw) (outcomeOf (some path) id option (some raw)) := by
  have decoding := option.kind.decoding_decode (Text.of option.key) raw
  rw [outcomeOf]
  simp only [writable, if_false, OptionSpec.decode, RepoOption.spec_kind, RepoOption.spec_key]
  generalize option.kind.decode (Text.of option.key) raw = decoded at decoding
  cases decoding with
  | @legal value denotes =>
    have legal : option.kind.IsLegal raw := ⟨value, denotes⟩
    exact
      { closed := .inl ⟨_, rfl⟩
        not_set := by simp
        default := by simp
        value := by
          rintro _ ⟨⟩ _ ⟨⟩
          exact denotes
        invalid := by simp [legal] }
  | illegal problem cause not_legal =>
    exact
      { closed := .inr ⟨_, rfl, .inr rfl, rfl, rfl⟩
        not_set := by simp [explain, RepoError.invalid]
        default := by simp
        value := by simp [explain, RepoError.invalid]
        invalid := by simp [explain, RepoError.invalid, not_legal] }
  | overlong count long => exact absurd long short

theorem outcomeOf_overlong {option : RepoOption} (writable : option.kind ≠ .id)
    (path : Files.Path) (id : Text) {raw : Text} (long : option.kind.IsOverlong raw) :
    ∃ count, outcomeOf (some path) id option (some raw) = .error (.tooManyDigits count) := by
  have decoding := option.kind.decoding_decode (Text.of option.key) raw
  rw [outcomeOf]
  simp only [writable, if_false, OptionSpec.decode, RepoOption.spec_kind, RepoOption.spec_key]
  generalize option.kind.decode (Text.of option.key) raw = decoded at decoding
  cases decoding with
  | legal denotes short => exact absurd long short
  | illegal problem cause not_legal short => exact absurd long short
  | overlong count => exact ⟨count, rfl⟩

theorem not_answersExactly_tooManyDigits (path : Files.Path) (option : RepoOption)
    (stored : Option Text) (count : Nat) :
    ¬AnswersExactly path option stored (.error (.tooManyDigits count)) := by
  intro answers
  rcases answers.closed with ⟨value, same⟩ | ⟨error, same, -⟩
  · cases same
  · cases same

/-- Reading an option of a section is in order exactly when no integer of too many digits is stored
for it. -/
theorem answersExactly_iff {workspace : Workspace} {entry : Entry} {loaded : LoadedFile}
    (owned : workspace.fileOf? entry = some loaded)
    (declared : entry.id ∈ loaded.keyFile.groupNames) (option : RepoOption) (other : option ≠ .id) :
    AnswersExactly loaded.path option (loaded.keyFile.value? entry.id (Text.of option.key))
        (workspace.get entry (.registered option)) ↔
      ∀ raw, loaded.keyFile.value? entry.id (Text.of option.key) = some raw →
        ¬option.kind.IsOverlong raw := by
  have writable := RepoOption.kind_ne_id other
  rw [get_of_fileOf? owned declared]
  cases loaded.keyFile.value? entry.id (Text.of option.key) with
  | none => simp [answersExactly_none writable]
  | some raw =>
    constructor
    · rintro answers _ ⟨⟩ long
      obtain ⟨count, overlong⟩ := outcomeOf_overlong writable loaded.path entry.id long
      rw [overlong] at answers
      exact not_answersExactly_tooManyDigits _ _ _ _ answers
    · intro short
      exact answersExactly_some writable loaded.path entry.id (short raw rfl)

/-! ## Two costs -/

/-- A file with one section, which sets the cost. -/
def costText (cost : Text) : Text := Text.of "[r]\ncost = " ++ cost ++ ['\n']

/-- Any text without blanks can stand for the cost. -/
theorem parse_costText {cost : Text} (solid : ∀ char ∈ cost, Text.isBlank char = false) :
    ∃ keyFile, KeyFile.parse (Folding.fold (costText cost)) = .ok keyFile ∧
      keyFile.groupNames = [Text.of "r"] ∧
      keyFile.value? (Text.of "r") (Text.of RepoOption.cost.key) = some cost := by
  obtain ⟨bare, parsed, groups, printed⟩ : ∃ bare, KeyFile.parse (Text.of "[r]\n") = .ok bare ∧
      bare.groupNames = [Text.of "r"] ∧
      ∀ text, (bare.assign (Text.of "r") (Text.of RepoOption.cost.key) (some text)).print =
        costText text :=
    ⟨_, rfl, rfl, fun _ => rfl⟩
  have sound : bare.Sound :=
    { KeyFile.proper_of_parse parsed with
      untabbed := KeyFile.lacks_of_parse (by decide) (by decide) parsed
      returnless := KeyFile.lacks_of_parse (by decide) (by decide) parsed }
  have single := KeyFile.singleLined_of_hasContinuation parsed (by decide)
  have declared : Text.of "r" ∈ bare.groupNames := by simp [groups]
  have blank_free : ∀ blank : Char, Text.isBlank blank = true → blank ∉ cost := by
    intro blank is_blank member
    simp [solid blank member] at is_blank
  have storable : ∀ text, some cost = some text →
      KeyFile.Storable (Text.of RepoOption.cost.key) text := by
    rintro _ ⟨⟩
    exact RepoOption.cost.storable_key (Text.isTrimmed_of_solid solid) (blank_free _ (by decide))
      (blank_free _ (by decide)) (blank_free _ (by decide))
  have assigned_sound := sound.assign declared storable
  obtain ⟨keyFile, parsed_again, reprints⟩ := KeyFile.parse_print assigned_sound.toProper
    (single.assign sound.plain declared storable)
  have stands := KeyFile.hasGroup_iff.mpr declared
  refine ⟨keyFile, ?_, ?_, ?_⟩
  · rw [← printed, assigned_sound.fold_print]
    exact parsed_again
  · rw [reprints.groupNames, KeyFile.groupNames_assign stands, groups]
  · rw [reprints.value?, KeyFile.value?_assign stands (sound.plain.named _ declared)
      sound.plain.unshared, if_pos ⟨rfl, rfl⟩]

/-- The one entry of such a file is attached to it. -/
theorem exists_costText (cost : Text) (solid : ∀ char ∈ cost, Text.isBlank char = false) :
    ∃ handles opened loaded,
      (withFile sampleName (costText cost)).parse 0 sampleName = (.ok handles, opened) ∧
        opened.fileOf? { id := Text.of "r", file := some 0 } = some loaded ∧
        Text.of "r" ∈ loaded.keyFile.groupNames ∧
        loaded.keyFile.value? (Text.of "r") (Text.of RepoOption.cost.key) = some cost := by
  obtain ⟨keyFile, parsed, groups, stored⟩ := parse_costText solid
  have returnless : '\r' ∉ costText cost := by
    intro member
    rw [costText, List.mem_append, List.mem_append] at member
    rcases member with (front | inner) | back
    · exact absurd front (by decide)
    · exact absurd (solid _ inner) (by decide)
    · exact absurd back (by decide)
  obtain ⟨handles, opened, loaded, registered⟩ := parse_withFile returnless parsed
  exact ⟨handles, opened, _, loaded, registered.fileAt?, by simp [groups], stored⟩

/-- A cost of two digits is read in order. -/
theorem short_cost_answersExactly : ∃ handles opened loaded,
    (withFile sampleName (costText (Text.of "10"))).parse 0 sampleName = (.ok handles, opened) ∧
      opened.fileOf? { id := Text.of "r", file := some 0 } = some loaded ∧
      AnswersExactly loaded.path .cost (some (Text.of "10"))
        (opened.get { id := Text.of "r", file := some 0 } (.registered .cost)) := by
  have digits : Numeral.AreDigits (Text.of "10") := List.all_eq_true.mp rfl
  obtain ⟨handles, opened, loaded, parsed, owned, declared, stored⟩ :=
    exists_costText (Text.of "10") fun char member =>
      Numeral.isBlank_of_isDigit (digits char member)
  have short : ¬OptionKind.int32.IsOverlong (Text.of "10") := by
    rw [OptionKind.isOverlong_digits_iff digits (by decide)]
    decide
  have answers := (answersExactly_iff owned declared .cost (by decide)).mpr
  rw [stored] at answers
  refine ⟨handles, opened, loaded, parsed, owned, answers ?_⟩
  rintro _ ⟨⟩
  exact short

/-- A cost of ever so many digits is not told apart from any other cost that cannot be read: the
failure says nothing of the option and the file. -/
theorem long_cost_escapes : ∃ handles opened loaded count,
    (withFile sampleName (costText (List.replicate 4301 '9'))).parse 0 sampleName =
        (.ok handles, opened) ∧
      opened.fileOf? { id := Text.of "r", file := some 0 } = some loaded ∧
      Text.of "r" ∈ loaded.keyFile.groupNames ∧
      opened.get { id := Text.of "r", file := some 0 } (.registered .cost) =
        .error (.tooManyDigits count) ∧
      ¬AnswersExactly loaded.path .cost (some (List.replicate 4301 '9'))
        (opened.get { id := Text.of "r", file := some 0 } (.registered .cost)) := by
  have digits : Numeral.AreDigits (List.replicate 4301 '9') := by
    intro char member
    rw [List.eq_of_mem_replicate member]
    rfl
  have nonempty : List.replicate 4301 '9' ≠ [] := by
    rw [ne_eq, List.replicate_eq_nil_iff]
    decide
  have long : OptionKind.int32.IsOverlong (List.replicate 4301 '9') := by
    rw [OptionKind.isOverlong_digits_iff digits nonempty, List.length_replicate]
    decide
  obtain ⟨handles, opened, loaded, parsed, owned, declared, stored⟩ :=
    exists_costText _ fun char member => Numeral.isBlank_of_isDigit (digits char member)
  have writable : RepoOption.cost.kind ≠ .id := by decide
  obtain ⟨count, overlong⟩ := outcomeOf_overlong writable loaded.path (Text.of "r") long
  have outcome := get_of_fileOf? owned declared .cost
  rw [stored, overlong] at outcome
  refine ⟨handles, opened, loaded, count, parsed, owned, declared, outcome, ?_⟩
  rw [outcome]
  exact not_answersExactly_tooManyDigits _ _ _ count

end Workspace
end PackageRepos
