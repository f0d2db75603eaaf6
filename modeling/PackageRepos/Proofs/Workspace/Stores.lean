import PackageRepos.Proofs.Workspace.Runs
import PackageRepos.Proofs.Workspace.Saving

/-!
# What the catalogs list

The laws of catalogs in every workspace that operations lead to: how files and entries are listed,
what becomes of a detached entry, and what the removal of a file does.
-/

namespace PackageRepos
namespace Workspace

/-! ## Listing -/

/-- Every catalog lists its files in load order and the entries of each in section order, and an
entry is attached exactly as long as one catalog lists it with its file. -/
structure Orderly (workspace : Workspace) : Prop where
  entries : ∀ number, (workspace.catalog number).entries =
    (workspace.catalog number).files.flatMap workspace.declaredBy
  sections : ∀ number, ∀ file ∈ (workspace.catalog number).files, ∃ loaded,
    workspace.fileAt? file = some loaded ∧
      (workspace.declaredBy file).map workspace.idAt? = loaded.keyFile.groupNames.map some
  load_order : ∀ number, (workspace.catalog number).files.Pairwise (· < ·)
  distinct : ∀ number, (workspace.catalog number).entries.Nodup
  attached : ∀ handle entry, workspace.entryAt? handle = some entry →
    (entry.file.isSome ↔ ∃! number, handle ∈ (workspace.catalog number).entries ∧
      ∃ file ∈ (workspace.catalog number).files, entry.file = some file)
  listed : ∀ number, ∀ handle ∈ (workspace.catalog number).entries, ∃ entry,
    workspace.entryAt? handle = some entry ∧
      ∃ file ∈ (workspace.catalog number).files, entry.file = some file
  apart : ∀ first second file, file ∈ (workspace.catalog first).files →
    file ∈ (workspace.catalog second).files → first = second
  distinct_ids : ∀ number, ∀ file ∈ (workspace.catalog number).files,
    ((workspace.declaredBy file).map workspace.idAt?).Nodup
  find : ∀ number id, workspace.find number id =
    (workspace.catalog number).files.flatMap fun file =>
      (workspace.declaredBy file).filter fun handle => workspace.idAt? handle == some id
  find_single : ∀ number, ∀ file ∈ (workspace.catalog number).files, ∀ id,
    ((workspace.declaredBy file).filter fun handle =>
      workspace.idAt? handle == some id).length ≤ 1

theorem length_filter_le_one {α β : Type} [BEq β] [LawfulBEq β] {items : List α} {f : α → β}
    (distinct : (items.map f).Nodup) (value : β) :
    (items.filter fun item => f item == value).length ≤ 1 := by
  have counted : (items.filter fun item => f item == value).length = (items.map f).count value := by
    rw [← List.countP_eq_length_filter, List.count, List.countP_map]
    rfl
  rw [counted, distinct.count]
  split <;> simp

section Coherent

variable {workspace : Workspace} (coherent : workspace.Coherent)

include coherent

theorem Coherent.mem_entries {number handle : Nat} :
    handle ∈ (workspace.catalog number).entries ↔
      ∃ entry, workspace.entryAt? handle = some entry ∧
        ∃ file ∈ (workspace.catalog number).files, entry.file = some file := by
  rw [coherent.listed, List.mem_flatMap]
  constructor
  · rintro ⟨file, listed, member⟩
    obtain ⟨entry, stands, attached⟩ := mem_declaredBy.mp member
    exact ⟨entry, stands, file, listed, attached⟩
  · rintro ⟨entry, stands, file, listed, attached⟩
    exact ⟨file, listed, mem_declaredBy.mpr ⟨entry, stands, attached⟩⟩

theorem Coherent.nodup_entries (number : Nat) : (workspace.catalog number).entries.Nodup := by
  rw [coherent.listed, List.Nodup, List.pairwise_flatMap]
  constructor
  · exact fun file _ => nodup_declaredBy workspace file
  · apply (coherent.nodup_files number).imp
    intro first second different handle in_first other in_second
    rintro rfl
    exact different (eq_of_mem_declaredBy in_first in_second)

theorem Coherent.orderly : workspace.Orderly where
  entries := coherent.listed
  sections number file listed := by
    obtain ⟨loaded, found⟩ := coherent.exists_fileAt? listed
    exact ⟨loaded, found, coherent.sections number file listed loaded found⟩
  load_order := coherent.ordered
  distinct := coherent.nodup_entries
  attached handle entry stands := by
    constructor
    · intro has_file
      obtain ⟨file, attached⟩ := Option.isSome_iff_exists.mp has_file
      obtain ⟨number, listed⟩ := coherent.attached handle entry file stands attached
      refine ⟨number, ⟨coherent.mem_entries.mpr ⟨entry, stands, file, listed, attached⟩, file,
        listed, attached⟩, ?_⟩
      rintro other ⟨-, again, again_listed, again_attached⟩
      rw [attached, Option.some.injEq] at again_attached
      exact coherent.apart other number file (again_attached ▸ again_listed) listed
    · rintro ⟨number, ⟨-, file, -, attached⟩, -⟩
      rw [attached]
      rfl
  listed _ _ := coherent.mem_entries.mp
  apart := coherent.apart
  distinct_ids _ _ := coherent.nodup_ids
  find number id := by
    have named : (fun handle => (workspace.entryAt? handle).any fun entry => entry.id == id) =
        fun handle => workspace.idAt? handle == some id := by
      funext handle
      unfold idAt?
      cases workspace.entryAt? handle <;> simp
    rw [Workspace.find, coherent.listed, named, List.filter_flatMap]
  find_single _ _ listed id := length_filter_le_one (coherent.nodup_ids listed) (some id)

end Coherent

/-! ## Detached entries -/

/-- An entry without a file, which no catalog lists and which refuses to be read or set. That is a
mistake of the caller, unless the option asked for can be neither looked up nor shown. -/
def IsLost (workspace : Workspace) (handle : Nat) (entry : Entry) : Prop :=
  workspace.entryAt? handle = some entry ∧
    (∀ number, handle ∉ (workspace.catalog number).entries) ∧
    ∀ argument value, ∃ failure, workspace.get entry argument = .error failure ∧
      workspace.set entry argument value = (.error failure, workspace) ∧
      ((∃ error : RepoError, failure = .error error ∧ error.category = .argument) ↔
        argument.fault? = none)

theorem Extends.isLost {earlier later : Workspace} (extended : earlier.Extends later)
    (coherent : later.Coherent) {handle : Nat} {entry : Entry}
    (stands : earlier.entryAt? handle = some entry) (detached : entry.file = none) :
    later.IsLost handle entry := by
  obtain ⟨again, again_stands, id, file⟩ := extended.entries handle entry stands
  rw [detached, or_self] at file
  obtain rfl : again = entry := by
    cases again
    cases entry
    rw [Entry.mk.injEq]
    exact ⟨id, file.trans detached.symm⟩
  refine ⟨again_stands, ?_, ?_⟩
  · intro number member
    obtain ⟨listed, listed_stands, owner, -, attached⟩ := coherent.mem_entries.mp member
    rw [again_stands, Option.some.injEq] at listed_stands
    rw [← listed_stands, detached] at attached
    cases attached
  · intro argument value
    have refused : ∀ option file loaded, argument = .registered option →
        again.file = some file → later.fileAt? file ≠ some loaded := by
      intro option owner loaded _ attached
      rw [detached] at attached
      cases attached
    obtain ⟨failure, reason, set_eq, get_eq⟩ := set_of_detached refused value
    refine ⟨failure, get_eq, set_eq, ?_⟩
    cases reason with
    | faulty found => simp [found]
    | @mistaken error sound category => exact ⟨fun _ => sound, fun _ => ⟨error, rfl, category⟩⟩

/-! ## Removing -/

/-- A file left its catalog with its entries, which lost it, and all else is as before. -/
structure Without (workspace : Workspace) (number file : Nat) (after : Workspace) : Prop where
  files : after.files = workspace.files
  catalog_files : (after.catalog number).files =
    (workspace.catalog number).files.filter fun other => other != file
  catalog_entries : (after.catalog number).entries =
    (after.catalog number).files.flatMap workspace.declaredBy
  others : ∀ other, other ≠ number → after.catalog other = workspace.catalog other
  detached : ∀ handle ∈ workspace.declaredBy file, ∀ entry,
    workspace.entryAt? handle = some entry →
      after.entryAt? handle = some { entry with file := none }
  kept : ∀ handle ∉ workspace.declaredBy file, after.entryAt? handle = workspace.entryAt? handle

theorem Coherent.removeFile {workspace : Workspace} (coherent : workspace.Coherent)
    {number file : Nat} (listed : file ∈ (workspace.catalog number).files) :
    ∃ after, workspace.removeFile number file = (.ok (workspace.declaredBy file), after) ∧
      workspace.Without number file after := by
  obtain ⟨handles, after, result, removed⟩ := removeFile_of_listed listed
  have detached := removed.handles_eq.trans (coherent.detached listed)
  have replaced := catalog_of_insert removed.catalogs number
  rw [if_pos rfl] at replaced
  rw [detached] at result
  refine ⟨after, result, ?_⟩
  refine
    { files := removed.files
      catalog_files := by rw [replaced]
      catalog_entries := by rw [replaced, coherent.remaining]
      others := ?_
      detached := ?_
      kept := ?_ }
  · intro other different
    rw [catalog_of_insert removed.catalogs, if_neg different]
  · intro handle member entry stands
    rw [removed.entryAt? detached, if_pos member, stands]
    rfl
  · intro handle outside
    rw [removed.entryAt? detached, if_neg outside]

/-! ## Runs -/

/-- The laws of catalogs, whatever was asked of the workspace before. -/
theorem stores_of_run {blank : Workspace} (fresh : blank.IsFresh) (front back : List Operation) :
    let earlier := blank.run front
    let later := earlier.run back
    later.Orderly ∧ earlier.Extends later ∧
      (∀ handle entry, earlier.entryAt? handle = some entry → entry.file = none →
        later.IsLost handle entry) ∧
      (∀ number name handles opened, later.parse number name = (.ok handles, opened) →
        ∃ keyFile, (KeyFile.loadFile later.tree (Files.Path.ofText name)).1 = .ok keyFile ∧
          Registered later number (Files.Path.ofText name) keyFile handles opened ∧
          opened.declaredBy later.files.length = handles ∧
          handles.map opened.idAt? = keyFile.groupNames.map some) ∧
      (∀ number file, file ∈ (later.catalog number).files →
        ∃ after, later.removeFile number file = (.ok (later.declaredBy file), after) ∧
          later.Without number file after) ∧
      (∀ number file, file ∉ (later.catalog number).files →
        ∃ path, later.removeFile number file = (.error (.error (.notLoaded path)), later)) ∧
      ∀ number stranger,
        ∃ path, later.removeStranger number stranger =
          (.error (.error (.notLoaded path)), later) := by
  intro earlier later
  obtain ⟨before, -⟩ := fresh.coherent.of_run front
  obtain ⟨coherent, extended⟩ := before.of_run back
  refine ⟨coherent.orderly, extended, ?_, ?_, ?_, ?_, ?_⟩
  · intro handle entry stands detached
    exact extended.isLost coherent stands detached
  · intro number name handles opened parsed
    obtain ⟨keyFile, loaded, registered⟩ := registered_of_parse parsed
    refine ⟨keyFile, loaded, registered, ?_, registered.ids⟩
    rw [registered.declaredBy coherent, if_pos rfl]
  · intro number file listed
    exact coherent.removeFile listed
  · intro number file unlisted
    exact removeFile_of_not_listed unlisted
  · intro number stranger
    exact removeStranger_eq (coherent.bounded number) stranger

/-- The one file of a tree is loaded, and its removal yields its one entry. -/
theorem plain_text_stores :
    (withFile sampleName plainText).IsFresh ∧
      ∃ after, ((withFile sampleName plainText).run [.parse 0 sampleName]).removeFile 0 0 =
        (.ok [0], after) := by
  have fresh : (withFile sampleName plainText).IsFresh := ⟨rfl, rfl, rfl⟩
  refine ⟨fresh, ?_⟩
  obtain ⟨keyFile, handles, groups, registered⟩ := registered_plainText
  obtain ⟨-, -, -, -, removes, -⟩ := stores_of_run fresh [.parse 0 sampleName] []
  obtain ⟨after, result, -⟩ := removes 0 0 (registered.mem_files.mpr (.inr ⟨rfl, rfl⟩))
  refine ⟨after, ?_⟩
  have declared := registered.declaredBy fresh.coherent 0
  rw [if_pos (by rfl), registered.numbered, groups] at declared
  rw [run, List.foldl_nil, declared] at result
  exact result

/-- The entry of a removed file is asked for an option whose key cannot be looked up, and for a
number of too many digits in place of an option: neither is reported as a mistake of the caller. -/
theorem lost_entry_escapes : ∃ entry,
    let workspace := (withFile sampleName plainText).run [.parse 0 sampleName, .removeFile 0 0]
    workspace.entryAt? 0 = some entry ∧ entry.file = none ∧
      workspace.get entry (.misnamed .text (.list [.text (Text.of "x")])) =
        .error (.argument (.unkeyable "list")) ∧
      workspace.get entry (.value (.int (Nat.pow 10 Numeral.digitLimit))) =
        .error (.argument .unshowable) := by
  have fresh : (withFile sampleName plainText).IsFresh := ⟨rfl, rfl, rfl⟩
  have coherent := (fresh.coherent.of_run [.parse 0 sampleName]).1
  obtain ⟨keyFile, handles, groups, registered⟩ := registered_plainText
  have listed : 0 ∈ (((withFile sampleName plainText).run [.parse 0 sampleName]).catalog 0).files :=
    registered.mem_files.mpr (.inr ⟨rfl, rfl⟩)
  obtain ⟨after, removed, without⟩ := coherent.removeFile listed
  have stands := entryAt?_plainText
  have declared := mem_declaredBy.mpr ⟨_, stands, rfl⟩
  have long := Numeral.canWrite_ten_pow (le_refl Numeral.digitLimit)
  have run_eq : (withFile sampleName plainText).run [.parse 0 sampleName, .removeFile 0 0] =
      after := by
    change (((withFile sampleName plainText).run [.parse 0 sampleName]).removeFile 0 0).2 = after
    rw [removed]
  have unshowable : OptionArgument.fault? (.value (.int (Nat.pow 10 Numeral.digitLimit))) =
      some .unshowable := by
    rw [OptionArgument.fault?, Value.isShowable, long]
    rfl
  rw [run_eq]
  refine ⟨_, without.detached 0 declared _ stands, rfl, rfl, ?_⟩
  simp only [get, Workspace.registered, unshowable]

end Workspace
end PackageRepos
