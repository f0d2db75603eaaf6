import PackageRepos.Proofs.Workspace.Coherence

/-!
# Runs of a workspace

A workspace that starts without files stays coherent, whatever is asked of it. What was there once
keeps its handle, its path, its sections and its entries; an entry may only lose its file.
-/

namespace PackageRepos
namespace Workspace

/-- What a later workspace keeps of an earlier one. -/
structure Extends (earlier later : Workspace) : Prop where
  length_le : earlier.files.length ≤ later.files.length
  files : ∀ file loaded, earlier.fileAt? file = some loaded →
    ∃ again, later.fileAt? file = some again ∧ again.path = loaded.path ∧
      again.keyFile.groupNames = loaded.keyFile.groupNames
  entries : ∀ handle entry, earlier.entryAt? handle = some entry →
    ∃ again, later.entryAt? handle = some again ∧ again.id = entry.id ∧
      (again.file = none ∨ again.file = entry.file)
  /-- A file never comes back to a catalog. -/
  unlisted : ∀ number file, file < earlier.files.length → file ∈ (later.catalog number).files →
    file ∈ (earlier.catalog number).files
  declared : ∀ number file, file < earlier.files.length → file ∈ (later.catalog number).files →
    later.declaredBy file = earlier.declaredBy file

theorem Extends.trans {earlier between later : Workspace} (first : earlier.Extends between)
    (second : between.Extends later) : earlier.Extends later where
  length_le := Nat.le_trans first.length_le second.length_le
  files file loaded found := by
    obtain ⟨middle, middle_found, middle_path, middle_groups⟩ := first.files file loaded found
    obtain ⟨again, again_found, path, groups⟩ := second.files file middle middle_found
    exact ⟨again, again_found, path.trans middle_path, groups.trans middle_groups⟩
  entries handle entry stands := by
    obtain ⟨middle, middle_stands, middle_id, middle_file⟩ := first.entries handle entry stands
    obtain ⟨again, again_stands, id, file⟩ := second.entries handle middle middle_stands
    refine ⟨again, again_stands, id.trans middle_id, ?_⟩
    rcases file with lost | kept
    · exact .inl lost
    · rwa [kept]
  unlisted number file old listed :=
    first.unlisted number file old
      (second.unlisted number file (Nat.lt_of_lt_of_le old first.length_le) listed)
  declared number file old listed := by
    have older := Nat.lt_of_lt_of_le old first.length_le
    rw [second.declared number file older listed]
    exact first.declared number file old (second.unlisted number file older listed)

/-! ## Steps -/

theorem SameStores.extends {workspace after : Workspace} (same : SameStores workspace after) :
    workspace.Extends after where
  length_le := Nat.le_of_eq (congrArg List.length same.files.symm)
  files file loaded found := ⟨loaded, by rwa [same.fileAt?], rfl, rfl⟩
  entries handle entry stands := ⟨entry, by rwa [same.entryAt?], rfl, .inr rfl⟩
  unlisted number file _ listed := by rwa [same.catalog] at listed
  declared _ file _ _ := same.declaredBy file

theorem extends_setKeyFile {workspace : Workspace} {file : Nat} {loaded : LoadedFile}
    {keyFile : KeyFile} (found : workspace.fileAt? file = some loaded)
    (groups : keyFile.groupNames = loaded.keyFile.groupNames) :
    workspace.Extends (workspace.setKeyFile file keyFile) where
  length_le := Nat.le_of_eq (List.length_modify ..).symm
  files other shown shown_found := by
    rw [fileAt?_setKeyFile]
    split
    · rename_i same
      subst same
      rw [found, Option.some.injEq] at shown_found
      rw [found, ← shown_found]
      exact ⟨_, rfl, rfl, groups⟩
    · exact ⟨shown, shown_found, rfl, rfl⟩
  entries handle entry stands := ⟨entry, stands, rfl, .inr rfl⟩
  unlisted _ _ _ listed := listed
  declared _ _ _ _ := rfl

theorem Registered.extends {workspace after : Workspace} {number : Nat} {path : Files.Path}
    {keyFile : KeyFile} {handles : List Nat}
    (registered : Registered workspace number path keyFile handles after)
    (coherent : workspace.Coherent) : workspace.Extends after where
  length_le := by
    rw [registered.files, List.length_append]
    exact Nat.le_add_right _ _
  files file loaded found := by
    obtain ⟨short, -⟩ := List.getElem?_eq_some_iff.mp found
    exact ⟨loaded, by rwa [registered.fileAt?_old short], rfl, rfl⟩
  entries handle entry stands := by
    obtain ⟨short, -⟩ := List.getElem?_eq_some_iff.mp stands
    exact ⟨entry, by rwa [registered.entryAt?_old short], rfl, .inr rfl⟩
  unlisted number file old listed := by
    rcases registered.mem_files.mp listed with before | ⟨-, new⟩
    · exact before
    · exact absurd new (Nat.ne_of_lt old)
  declared number file old _ := by
    rw [registered.declaredBy coherent, if_neg (Nat.ne_of_lt old)]

theorem Removed.extends {workspace after : Workspace} {number file : Nat} {handles : List Nat}
    (removed : Removed workspace number file handles after)
    (detached : handles = workspace.declaredBy file) (coherent : workspace.Coherent)
    (listed : file ∈ (workspace.catalog number).files) : workspace.Extends after where
  length_le := Nat.le_of_eq (congrArg List.length removed.files.symm)
  files other loaded found := ⟨loaded, by rwa [removed.fileAt?], rfl, rfl⟩
  entries handle entry stands := by
    rw [removed.entryAt? detached, stands]
    split
    · exact ⟨_, rfl, rfl, .inl rfl⟩
    · exact ⟨_, rfl, rfl, .inr rfl⟩
  unlisted other kept _ kept_listed := (removed.mem_files.mp kept_listed).1
  declared _ _ _ := removed.declaredBy_kept detached coherent listed

/-- A step keeps a workspace coherent and extends it. -/
theorem Coherent.of_step {workspace after : Workspace} (coherent : workspace.Coherent)
    (step : Step workspace after) : after.Coherent ∧ workspace.Extends after := by
  cases step with
  | quiet same => exact ⟨coherent.of_sameStores same, same.extends⟩
  | registered sound done => exact ⟨coherent.of_registered done sound, done.extends coherent⟩
  | @written _ file _ loaded _ value _ stands attached found done =>
    have declared := coherent.declared stands attached found
    obtain ⟨plain, groups⟩ :=
      OptionSpec.plain_write (coherent.plain file loaded found) declared value
    exact ⟨(coherent.setKeyFile found plain groups).of_sameStores done,
      (extends_setKeyFile found groups).trans done.extends⟩
  | removed listed done =>
    have detached := done.handles_eq.trans (coherent.detached listed)
    exact ⟨coherent.of_removed done detached listed, done.extends detached coherent listed⟩

theorem Coherent.of_steps {workspace after : Workspace} (coherent : workspace.Coherent)
    (steps : Steps workspace after) : after.Coherent ∧ workspace.Extends after := by
  induction steps with
  | refl => exact ⟨coherent, SameStores.extends ⟨rfl, rfl, rfl⟩⟩
  | tail _ last ih =>
    obtain ⟨between, extended⟩ := ih
    obtain ⟨final, further⟩ := between.of_step last
    exact ⟨final, extended.trans further⟩

/-! ## Operations -/

/-- Nothing was loaded yet. -/
structure IsFresh (workspace : Workspace) : Prop where
  files : workspace.files = []
  entries : workspace.entries = []
  catalogs : workspace.catalogs = ∅

theorem IsFresh.coherent {workspace : Workspace} (fresh : workspace.IsFresh) :
    workspace.Coherent := by
  have empty : ∀ number, workspace.catalog number = {} := by
    intro number
    rw [catalog, fresh.catalogs]
    rfl
  have missing : ∀ file, workspace.fileAt? file = none := by
    intro file
    rw [fileAt?, fresh.files]
    rfl
  have absent : ∀ handle, workspace.entryAt? handle = none := by
    intro handle
    rw [entryAt?, fresh.entries]
    rfl
  constructor <;> simp [empty, missing, absent]

theorem Coherent.of_run {workspace : Workspace} (coherent : workspace.Coherent)
    (operations : List Operation) :
    (workspace.run operations).Coherent ∧ workspace.Extends (workspace.run operations) := by
  induction operations generalizing workspace with
  | nil => exact ⟨coherent, SameStores.extends ⟨rfl, rfl, rfl⟩⟩
  | cons operation rest ih =>
    obtain ⟨between, extended⟩ := coherent.of_steps (steps_perform coherent.bounded operation)
    obtain ⟨final, further⟩ := ih between
    exact ⟨final, extended.trans further⟩

end Workspace
end PackageRepos
