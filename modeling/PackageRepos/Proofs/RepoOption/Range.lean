import Mathlib.Algebra.Group.Int.Defs
import PackageRepos.Proofs.RepoOption.Items
import PackageRepos.Proofs.RepoOption.Legality

/-!
# The values that options have

Every kind of option has values of one form: numbers in the range of the kind, lists of trimmed
items without separators, and so on. Whatever text is decoded, the value is of that form, and so are
the defaults and the values that are assumed for options that are not set; a text option has none of
these.
-/

namespace PackageRepos
namespace OptionKind

/-- The item of a list could be read from a text between two separators. -/
structure IsListed (item : Text) : Prop where
  filled : item ≠ []
  trimmed : Text.IsTrimmed item
  undivided : ∀ char ∈ item, char ∉ [' ', ',', ';']

/-- The value is one that an option of the kind can have. -/
def Fits (kind : OptionKind) (value : Value) : Prop :=
  match kind with
  | id | text => ∃ content, value = .text content
  | list => ∃ items : List Text, value = .list (items.map .text) ∧ ∀ item ∈ items, IsListed item
  | bool => ∃ flag, value = .bool flag
  | int32 => ∃ number, value = .int number ∧ -2 ^ 31 ≤ number ∧ number ≤ 2 ^ 31 - 1
  | interval => ∃ number, value = .int number ∧ -2 ^ 63 ≤ number ∧ number ≤ 2 ^ 63 - 1
  | bandwidth => ∃ number, value = .int number ∧ 0 ≤ number ∧ number ≤ 2 ^ 64 - 1
  | ipResolve => ∃ family, value = .address family

theorem isListed_of_mem_listItems {text item : Text} (member : item ∈ listItems text) :
    IsListed item := by
  obtain ⟨filled, trimmed, undivided⟩ := of_mem_listItems member
  refine ⟨filled, trimmed, fun char inner separates => ?_⟩
  have joins := undivided char inner
  rw [isSeparator_iff.mpr separates] at joins
  cases joins

/-- What a text denotes is in range, whichever way the number is written. -/
theorem Denotes.fits {kind : OptionKind} {raw : Text} {value : Value}
    (denotes : kind.Denotes raw value) : kind.Fits value := by
  cases denotes with
  | id | text => exact ⟨raw, rfl⟩
  | list => exact ⟨listItems raw, rfl, fun item => isListed_of_mem_listItems⟩
  | bool => exact ⟨flagOf raw, rfl⟩
  | int32 leads integer blank least most => exact ⟨_, rfl, least, most⟩
  | interval denotes =>
    obtain ⟨-, -, -, -, -, -, least, most⟩ := denotes
    exact ⟨_, rfl, least, most⟩
  | bandwidth denotes =>
    obtain ⟨-, -, -, -, -, -, least, most⟩ := denotes
    exact ⟨_, rfl, least, most⟩
  | @address _ family => exact ⟨family, rfl⟩

theorem fits_of_decode {kind : OptionKind} {key raw : Text} {value : Value}
    (decoded : kind.decode key raw = .ok value) : kind.Fits value := by
  have decoding := kind.decoding_decode key raw
  rw [decoded] at decoding
  cases decoding with
  | legal denotes => exact denotes.fits

/-- A value of a text or a list counts as true unless it is empty. -/
theorem Fits.isTrue_iff {kind : OptionKind} {value : Value} (fits : kind.Fits value)
    (textual : kind = .text ∨ kind = .list) :
    value.isTrue = true ↔ value ≠ .text [] ∧ value ≠ .list [] := by
  rcases textual with rfl | rfl
  · obtain ⟨content, rfl⟩ := fits
    simp [Value.isTrue]
  · obtain ⟨items, rfl, -⟩ := fits
    simp [Value.isTrue]

end OptionKind

namespace RepoOption

theorem fits_default {option : RepoOption} (set : option.spec.hasDefault = true) :
    option.kind.Fits option.default := by
  cases option with
  | enabled | enablegroups | sslverify => exact ⟨true, rfl⟩
  | _ => cases set

/-- Only texts have nothing to stand in for them. -/
theorem fits_fallback {option : RepoOption} (other : option ≠ .id) :
    option.kind.Fits option.spec.fallback ∨
      (option.kind = .text ∧ option.spec.fallback = .absent) := by
  cases option with
  | id => exact absurd rfl other
  | enabled | enablegroups | sslverify => exact .inl ⟨true, rfl⟩
  | fastestmirror | gpgcheck | repoGpgcheck => exact .inl ⟨false, rfl⟩
  | baseurl | gpgkey | gpgcakey | excludes | includes | deltarepobaseurl =>
    exact .inl ⟨[], rfl, List.forall_mem_nil _⟩
  | bandwidth => exact .inl ⟨0, rfl, by decide⟩
  | ipResolve => exact .inl ⟨.whatever, rfl⟩
  | metadataExpire => exact .inl ⟨172800, rfl, by decide⟩
  | cost => exact .inl ⟨1000, rfl, by decide⟩
  | priority => exact .inl ⟨99, rfl, by decide⟩
  | _ => exact .inr ⟨rfl, rfl⟩

end RepoOption
end PackageRepos
