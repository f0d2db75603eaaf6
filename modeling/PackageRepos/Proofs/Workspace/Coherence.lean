import Mathlib.Data.List.Basic
import PackageRepos.Proofs.RepoOption.Access
import PackageRepos.Proofs.Workspace.Steps

/-!
# Coherent workspaces

How the files, the entries and the catalogs of a workspace hang together, and that every step keeps
it so.
-/

namespace PackageRepos
namespace Workspace

/-- The entries of a file, in the order in which they were made. -/
def declaredBy (workspace : Workspace) (file : Nat) : List Nat :=
  (List.range workspace.entries.length).filter (workspace.declares file)

/-- The name of the section that an entry stands for. -/
def idAt? (workspace : Workspace) (handle : Nat) : Option Text :=
  (workspace.entryAt? handle).map (·.id)

/-- Files, entries and catalogs that belong together. -/
structure Coherent (workspace : Workspace) : Prop where
  bounded : ∀ number, ∀ file ∈ (workspace.catalog number).files, file < workspace.files.length
  ordered : ∀ number, (workspace.catalog number).files.Pairwise (· < ·)
  apart : ∀ first second file, file ∈ (workspace.catalog first).files →
    file ∈ (workspace.catalog second).files → first = second
  listed : ∀ number, (workspace.catalog number).entries =
    (workspace.catalog number).files.flatMap workspace.declaredBy
  attached : ∀ handle entry file, workspace.entryAt? handle = some entry →
    entry.file = some file → ∃ number, file ∈ (workspace.catalog number).files
  sections : ∀ number, ∀ file ∈ (workspace.catalog number).files, ∀ loaded,
    workspace.fileAt? file = some loaded →
      (workspace.declaredBy file).map workspace.idAt? = loaded.keyFile.groupNames.map some
  plain : ∀ file loaded, workspace.fileAt? file = some loaded → loaded.keyFile.Plain

theorem declares_eq_true {workspace : Workspace} {file handle : Nat} :
    workspace.declares file handle = true ↔
      ∃ entry, workspace.entryAt? handle = some entry ∧ entry.file = some file := by
  cases stands : workspace.entryAt? handle <;> simp [declares, stands]

theorem mem_declaredBy {workspace : Workspace} {file handle : Nat} :
    handle ∈ workspace.declaredBy file ↔
      ∃ entry, workspace.entryAt? handle = some entry ∧ entry.file = some file := by
  rw [declaredBy, List.mem_filter, declares_eq_true]
  constructor
  · exact And.right
  · rintro ⟨entry, stands, attached⟩
    obtain ⟨short, -⟩ := List.getElem?_eq_some_iff.mp stands
    exact ⟨List.mem_range.mpr short, entry, stands, attached⟩

/-- An entry belongs to one file at most. -/
theorem eq_of_mem_declaredBy {workspace : Workspace} {first second handle : Nat}
    (in_first : handle ∈ workspace.declaredBy first)
    (in_second : handle ∈ workspace.declaredBy second) : first = second := by
  obtain ⟨entry, stands, attached⟩ := mem_declaredBy.mp in_first
  obtain ⟨again, again_stands, again_attached⟩ := mem_declaredBy.mp in_second
  rw [stands, Option.some.injEq] at again_stands
  rw [← again_stands, attached, Option.some.injEq] at again_attached
  exact again_attached

theorem nodup_declaredBy (workspace : Workspace) (file : Nat) :
    (workspace.declaredBy file).Nodup :=
  List.nodup_range.filter _

/-- Catalogs after one of them was replaced. -/
theorem catalog_of_insert {workspace after : Workspace} {number : Nat} {catalog : Catalog}
    (replaced : after.catalogs = workspace.catalogs.insert number catalog) (other : Nat) :
    after.catalog other = if other = number then catalog else workspace.catalog other := by
  rw [Workspace.catalog, replaced, OrderedMap.get?_insert]
  split <;> rfl

section Coherent

variable {workspace : Workspace} (coherent : workspace.Coherent)

include coherent

theorem Coherent.exists_fileAt? {number file : Nat}
    (listed : file ∈ (workspace.catalog number).files) :
    ∃ loaded, workspace.fileAt? file = some loaded :=
  ⟨_, List.getElem?_eq_getElem (coherent.bounded number file listed)⟩

/-- The entries of a file have different names. -/
theorem Coherent.nodup_ids {number file : Nat} (listed : file ∈ (workspace.catalog number).files) :
    ((workspace.declaredBy file).map workspace.idAt?).Nodup := by
  obtain ⟨loaded, found⟩ := coherent.exists_fileAt? listed
  rw [coherent.sections number file listed loaded found, List.Nodup, List.pairwise_map]
  exact loaded.keyFile.groups.keys_nodup.imp fun different same => different (Option.some.inj same)

end Coherent

/-! ## Quiet steps -/

section SameStores

variable {workspace after : Workspace} (same : SameStores workspace after)

include same

theorem SameStores.catalog (number : Nat) : after.catalog number = workspace.catalog number := by
  rw [Workspace.catalog, same.catalogs, Workspace.catalog]

theorem SameStores.entryAt? (handle : Nat) : after.entryAt? handle = workspace.entryAt? handle := by
  rw [Workspace.entryAt?, same.entries, Workspace.entryAt?]

theorem SameStores.fileAt? (file : Nat) : after.fileAt? file = workspace.fileAt? file := by
  rw [Workspace.fileAt?, same.files, Workspace.fileAt?]

theorem SameStores.declaredBy (file : Nat) : after.declaredBy file = workspace.declaredBy file := by
  have belongs : after.declares file = workspace.declares file := by
    funext handle
    rw [declares, same.entryAt?, declares]
  rw [Workspace.declaredBy, same.entries, belongs, Workspace.declaredBy]

theorem SameStores.idAt? : after.idAt? = workspace.idAt? := by
  funext handle
  rw [Workspace.idAt?, same.entryAt?, Workspace.idAt?]

/-- Coherence is a matter of files, entries and catalogs alone. -/
theorem Coherent.of_sameStores (coherent : workspace.Coherent) : after.Coherent where
  bounded number file := by
    rw [same.catalog, same.files]
    exact coherent.bounded number file
  ordered number := by
    rw [same.catalog]
    exact coherent.ordered number
  apart first second file := by
    rw [same.catalog, same.catalog]
    exact coherent.apart first second file
  listed number := by
    rw [same.catalog, funext same.declaredBy]
    exact coherent.listed number
  attached handle entry file stands attached := by
    rw [same.entryAt?] at stands
    obtain ⟨number, listed⟩ := coherent.attached handle entry file stands attached
    exact ⟨number, by rwa [same.catalog]⟩
  sections number file listed loaded found := by
    rw [same.catalog] at listed
    rw [same.fileAt?] at found
    rw [same.declaredBy, same.idAt?]
    exact coherent.sections number file listed loaded found
  plain file loaded found := by
    rw [same.fileAt?] at found
    exact coherent.plain file loaded found

end SameStores

/-! ## Registering -/

theorem declaredBy_of_append {workspace after : Workspace} {added : List Entry}
    (appended : after.entries = workspace.entries ++ added) (file : Nat) :
    after.declaredBy file = workspace.declaredBy file ++
      (List.range' workspace.entries.length added.length).filter (after.declares file) := by
  have old : ∀ handle ∈ List.range workspace.entries.length,
      after.declares file handle = workspace.declares file handle := by
    intro handle member
    rw [declares, entryAt?, appended, List.getElem?_append_left (List.mem_range.mp member),
      declares, entryAt?]
  have handles : List.range after.entries.length = List.range workspace.entries.length ++
      List.range' workspace.entries.length added.length := by
    rw [appended, List.length_append, List.range_eq_range', List.range_eq_range',
      ← List.range'_append_1, Nat.zero_add]
  rw [declaredBy, handles, List.filter_append, List.filter_congr old, declaredBy]

theorem map_getElem?_append {α : Type} (front back : List α) :
    (List.range' front.length back.length).map (fun index => (front ++ back)[index]?) =
      back.map some := by
  apply List.ext_getElem
  · simp
  · intro index left right
    have short : index < back.length := by simpa using right
    simp [short]

/-- No entry belongs to a file that is not there. -/
theorem Coherent.declaredBy_eq_nil {workspace : Workspace} (coherent : workspace.Coherent)
    {file : Nat} (missing : workspace.files.length ≤ file) : workspace.declaredBy file = [] := by
  rw [List.eq_nil_iff_forall_not_mem]
  intro handle member
  obtain ⟨entry, stands, attached⟩ := mem_declaredBy.mp member
  obtain ⟨number, listed⟩ := coherent.attached handle entry file stands attached
  exact absurd (coherent.bounded number file listed) (Nat.not_lt.mpr missing)

section Registered

variable {workspace after : Workspace} {number : Nat} {path : Files.Path} {keyFile : KeyFile}
  {handles : List Nat} (registered : Registered workspace number path keyFile handles after)

include registered

/-- The new entries, one for each section. -/
theorem Registered.added : handles.map after.entryAt? =
    keyFile.groupNames.map fun id => some { id := id, file := some workspace.files.length } := by
  have numbered := registered.numbered
  rw [← List.length_map (fun id => { id, file := some workspace.files.length : Entry })] at numbered
  have entries := map_getElem?_append workspace.entries
    (keyFile.groupNames.map fun id => { id, file := some workspace.files.length })
  rw [← registered.entries, ← numbered, List.map_map] at entries
  exact entries

theorem Registered.ids : handles.map after.idAt? = keyFile.groupNames.map some := by
  have ids := congrArg (List.map (Option.map Entry.id)) registered.added
  rw [List.map_map, List.map_map] at ids
  exact ids

theorem Registered.entryAt?_new {handle : Nat} (member : handle ∈ handles) :
    ∃ entry, after.entryAt? handle = some entry ∧ entry.file = some workspace.files.length := by
  have shown : after.entryAt? handle ∈ handles.map after.entryAt? := List.mem_map_of_mem member
  rw [registered.added] at shown
  obtain ⟨id, -, stands⟩ := List.mem_map.mp shown
  exact ⟨_, stands.symm, rfl⟩

theorem Registered.entryAt?_old {handle : Nat} (old : handle < workspace.entries.length) :
    after.entryAt? handle = workspace.entryAt? handle := by
  rw [Workspace.entryAt?, registered.entries, List.getElem?_append_left old, Workspace.entryAt?]

/-- The entries of the new file are the new ones, and no other file has any of them. -/
theorem Registered.declaredBy (coherent : workspace.Coherent) (file : Nat) :
    after.declaredBy file =
      if file = workspace.files.length then handles else workspace.declaredBy file := by
  have appended := declaredBy_of_append registered.entries file
  rw [List.length_map, ← registered.numbered] at appended
  rw [appended]
  split
  · rename_i same
    rw [coherent.declaredBy_eq_nil (Nat.le_of_eq same.symm), List.nil_append, List.filter_eq_self]
    intro handle member
    rw [declares_eq_true, same]
    exact registered.entryAt?_new member
  · rename_i other
    rw [List.append_right_eq_self, List.filter_eq_nil_iff]
    intro handle member declares
    have new := mem_declaredBy.mpr (registered.entryAt?_new member)
    exact other (eq_of_mem_declaredBy (mem_declaredBy.mpr (declares_eq_true.mp declares)) new)

theorem Registered.mem_files {other file : Nat} :
    file ∈ (after.catalog other).files ↔
      file ∈ (workspace.catalog other).files ∨ other = number ∧ file = workspace.files.length := by
  rw [catalog_of_insert registered.catalogs]
  split
  · rename_i same
    simp [same]
  · rename_i different
    simp [different]

theorem Registered.fileAt?_old {file : Nat} (old : file < workspace.files.length) :
    after.fileAt? file = workspace.fileAt? file := by
  rw [Workspace.fileAt?, registered.files, List.getElem?_append_left old, Workspace.fileAt?]

theorem Registered.fileAt?_new {file : Nat} {loaded : LoadedFile}
    (new : workspace.files.length ≤ file) (found : after.fileAt? file = some loaded) :
    file = workspace.files.length ∧ loaded = { path := path, keyFile := keyFile } := by
  obtain ⟨short, -⟩ := List.getElem?_eq_some_iff.mp found
  rw [registered.files, List.length_append, List.length_singleton] at short
  obtain rfl : file = workspace.files.length := by omega
  rw [registered.fileAt?, Option.some.injEq] at found
  exact ⟨rfl, found.symm⟩

section Coherent

variable (coherent : workspace.Coherent)

include coherent

/-- A file that was listed before is not the new one, and keeps its entries. -/
theorem Registered.declaredBy_old {other file : Nat}
    (listed : file ∈ (workspace.catalog other).files) :
    after.declaredBy file = workspace.declaredBy file := by
  rw [registered.declaredBy coherent, if_neg]
  exact Nat.ne_of_lt (coherent.bounded other file listed)

theorem Registered.ordered (other : Nat) : (after.catalog other).files.Pairwise (· < ·) := by
  rw [catalog_of_insert registered.catalogs]
  split
  · refine List.pairwise_append.mpr ⟨coherent.ordered number, List.pairwise_singleton _ _, ?_⟩
    intro file listed new member
    rw [List.mem_singleton.mp member]
    exact coherent.bounded number file listed
  · exact coherent.ordered other

theorem Registered.apart {first second file : Nat} (in_first : file ∈ (after.catalog first).files)
    (in_second : file ∈ (after.catalog second).files) : first = second := by
  have old : ∀ {other}, file ∈ (workspace.catalog other).files → file ≠ workspace.files.length :=
    fun listed => Nat.ne_of_lt (coherent.bounded _ file listed)
  rcases registered.mem_files.mp in_first with before | ⟨rfl, new⟩
  · rcases registered.mem_files.mp in_second with again | ⟨-, new⟩
    · exact coherent.apart first second file before again
    · exact absurd new (old before)
  · rcases registered.mem_files.mp in_second with before | ⟨rfl, -⟩
    · exact absurd new (old before)
    · rfl

theorem Registered.listed (other : Nat) : (after.catalog other).entries =
    (after.catalog other).files.flatMap after.declaredBy := by
  have before : ∀ other, (workspace.catalog other).entries =
      (workspace.catalog other).files.flatMap after.declaredBy := by
    intro other
    rw [coherent.listed other]
    exact List.flatMap_congr fun file listed => (registered.declaredBy_old coherent listed).symm
  rw [catalog_of_insert registered.catalogs]
  split
  · rw [List.flatMap_append, ← before number, List.flatMap_singleton,
      registered.declaredBy coherent, if_pos rfl]
  · exact before other

theorem Registered.attached {handle file : Nat} {entry : Entry}
    (stands : after.entryAt? handle = some entry) (owned : entry.file = some file) :
    ∃ other, file ∈ (after.catalog other).files := by
  have member : handle ∈ after.declaredBy file := mem_declaredBy.mpr ⟨entry, stands, owned⟩
  rw [registered.declaredBy coherent] at member
  split at member
  · rename_i new
    exact ⟨number, registered.mem_files.mpr (.inr ⟨rfl, new⟩)⟩
  · obtain ⟨before, before_stands, before_owned⟩ := mem_declaredBy.mp member
    obtain ⟨other, listed⟩ := coherent.attached handle before file before_stands before_owned
    exact ⟨other, registered.mem_files.mpr (.inl listed)⟩

theorem Registered.sections {other file : Nat} {loaded : LoadedFile}
    (listed : file ∈ (after.catalog other).files) (found : after.fileAt? file = some loaded) :
    (after.declaredBy file).map after.idAt? = loaded.keyFile.groupNames.map some := by
  rcases registered.mem_files.mp listed with before | ⟨-, rfl⟩
  · rw [registered.fileAt?_old (coherent.bounded other file before)] at found
    rw [registered.declaredBy_old coherent before,
      ← coherent.sections other file before loaded found]
    apply List.map_congr_left
    intro handle member
    have short := List.mem_range.mp (List.mem_filter.mp member).1
    rw [idAt?, registered.entryAt?_old short, idAt?]
  · obtain ⟨-, rfl⟩ := registered.fileAt?_new (Nat.le_refl _) found
    rw [registered.declaredBy coherent, if_pos rfl]
    exact registered.ids

end Coherent

theorem Coherent.of_registered (coherent : workspace.Coherent) (sound : keyFile.Sound) :
    after.Coherent where
  bounded other file listed := by
    rw [registered.files, List.length_append, List.length_singleton]
    rcases registered.mem_files.mp listed with before | ⟨-, rfl⟩
    · exact Nat.lt_succ_of_lt (coherent.bounded other file before)
    · exact Nat.lt_succ_self _
  ordered := registered.ordered coherent
  apart _ _ _ := registered.apart coherent
  listed := registered.listed coherent
  attached _ _ _ := registered.attached coherent
  sections _ _ listed _ found := registered.sections coherent listed found
  plain file loaded found := by
    by_cases before : file < workspace.files.length
    · rw [registered.fileAt?_old before] at found
      exact coherent.plain file loaded found
    · obtain ⟨-, rfl⟩ := registered.fileAt?_new (Nat.not_lt.mp before) found
      exact sound.plain

end Registered

/-! ## Writing -/

theorem fileAt?_setKeyFile (workspace : Workspace) (file : Nat) (keyFile : KeyFile) (other : Nat) :
    (workspace.setKeyFile file keyFile).fileAt? other =
      if file = other then
        (workspace.fileAt? other).map fun loaded => { loaded with keyFile := keyFile }
      else workspace.fileAt? other := by
  rw [fileAt?, setKeyFile, List.getElem?_modify]
  split <;> simp [fileAt?]

/-- The section of an attached entry is declared in its file. -/
theorem Coherent.declared {workspace : Workspace} (coherent : workspace.Coherent) {handle : Nat}
    {entry : Entry} {file : Nat} {loaded : LoadedFile}
    (stands : workspace.entryAt? handle = some entry) (attached : entry.file = some file)
    (found : workspace.fileAt? file = some loaded) : entry.id ∈ loaded.keyFile.groupNames := by
  obtain ⟨number, listed⟩ := coherent.attached handle entry file stands attached
  have sections := coherent.sections number file listed loaded found
  have member : handle ∈ workspace.declaredBy file := mem_declaredBy.mpr ⟨entry, stands, attached⟩
  have id : workspace.idAt? handle = some entry.id := by
    rw [idAt?, stands]
    rfl
  have shown : some entry.id ∈ loaded.keyFile.groupNames.map some := by
    rw [← sections, ← id]
    exact List.mem_map_of_mem member
  simpa using shown

/-- A key file may be replaced by one with the same groups. -/
theorem Coherent.setKeyFile {workspace : Workspace} (coherent : workspace.Coherent) {file : Nat}
    {loaded : LoadedFile} {keyFile : KeyFile} (found : workspace.fileAt? file = some loaded)
    (plain : keyFile.Plain) (groups : keyFile.groupNames = loaded.keyFile.groupNames) :
    (workspace.setKeyFile file keyFile).Coherent where
  bounded number other listed := by
    rw [Workspace.setKeyFile, List.length_modify]
    exact coherent.bounded number other listed
  ordered := coherent.ordered
  apart := coherent.apart
  listed := coherent.listed
  attached := coherent.attached
  sections number other listed shown shown_found := by
    rw [fileAt?_setKeyFile] at shown_found
    split at shown_found
    · rename_i same
      subst same
      rw [found, Option.map_some, Option.some.injEq] at shown_found
      rw [← shown_found, groups]
      exact coherent.sections number file listed loaded found
    · exact coherent.sections number other listed shown shown_found
  plain other shown shown_found := by
    rw [fileAt?_setKeyFile] at shown_found
    split at shown_found
    · rename_i same
      subst same
      rw [found, Option.map_some, Option.some.injEq] at shown_found
      rw [← shown_found]
      exact plain
    · exact coherent.plain other shown shown_found

/-! ## Removing -/

theorem filter_declaredBy (workspace : Workspace) (file other : Nat) :
    (workspace.declaredBy other).filter (workspace.declares file) =
      if other = file then workspace.declaredBy other else [] := by
  split
  · rename_i same
    rw [List.filter_eq_self, ← same]
    exact fun handle member => declares_eq_true.mpr (mem_declaredBy.mp member)
  · rename_i different
    rw [List.filter_eq_nil_iff]
    intro handle member declares
    have owned := mem_declaredBy.mpr (declares_eq_true.mp declares)
    exact different (eq_of_mem_declaredBy member owned)

theorem filter_not_declaredBy (workspace : Workspace) (file other : Nat) :
    (workspace.declaredBy other).filter (fun handle => !workspace.declares file handle) =
      if other != file then workspace.declaredBy other else [] := by
  have inside := filter_declaredBy workspace file other
  by_cases same : other = file
  · subst same
    rw [if_pos rfl, List.filter_eq_self] at inside
    rw [bne_self_eq_false, if_neg (by simp), List.filter_eq_nil_iff]
    intro handle member
    simp [inside handle member]
  · rw [if_neg same, List.filter_eq_nil_iff] at inside
    rw [if_pos (by simpa using same), List.filter_eq_self]
    intro handle member
    simpa using inside handle member

theorem flatMap_filter {α β : Type} (test : α → Bool) (f : α → List β) (items : List α) :
    items.flatMap (fun item => if test item then f item else []) =
      (items.filter test).flatMap f := by
  induction items with
  | nil => rfl
  | cons item rest ih =>
    rw [List.flatMap_cons, ih, List.filter_cons]
    split <;> simp

theorem Coherent.nodup_files {workspace : Workspace} (coherent : workspace.Coherent)
    (number : Nat) : (workspace.catalog number).files.Nodup :=
  (coherent.ordered number).imp Nat.ne_of_lt

/-- What remains in a catalog belongs to the files that remain. -/
theorem Coherent.remaining {workspace : Workspace} (coherent : workspace.Coherent)
    (number file : Nat) :
    (workspace.catalog number).entries.filter (fun handle => !workspace.declares file handle) =
      ((workspace.catalog number).files.filter fun other => other != file).flatMap
        workspace.declaredBy := by
  rw [coherent.listed, List.filter_flatMap, ← flatMap_filter]
  exact List.flatMap_congr fun other _ => filter_not_declaredBy workspace file other

/-- The entries of a listed file are all listed. -/
theorem Coherent.detached {workspace : Workspace} (coherent : workspace.Coherent)
    {number file : Nat} (listed : file ∈ (workspace.catalog number).files) :
    (workspace.catalog number).entries.filter (workspace.declares file) =
      workspace.declaredBy file := by
  have single : (workspace.catalog number).files.filter (· == file) = [file] := by
    rw [List.filter_beq, (coherent.nodup_files number).count, if_pos listed]
    rfl
  rw [coherent.listed, List.filter_flatMap, ← List.flatMap_singleton workspace.declaredBy file,
    ← single, ← flatMap_filter]
  apply List.flatMap_congr
  intro other member
  rw [filter_declaredBy]
  simp

section Removed

variable {workspace after : Workspace} {number file : Nat} {handles : List Nat}
  (removed : Removed workspace number file handles after)

include removed

theorem Removed.mem_files {other listed : Nat} :
    listed ∈ (after.catalog other).files ↔
      listed ∈ (workspace.catalog other).files ∧ ¬(other = number ∧ listed = file) := by
  rw [catalog_of_insert removed.catalogs]
  split
  · rename_i same
    subst same
    simp
  · rename_i different
    simp [different]

theorem Removed.fileAt? (other : Nat) : after.fileAt? other = workspace.fileAt? other := by
  rw [Workspace.fileAt?, removed.files, Workspace.fileAt?]

variable (detached : handles = workspace.declaredBy file)

include detached

theorem Removed.entryAt? (handle : Nat) :
    after.entryAt? handle =
      if handle ∈ workspace.declaredBy file then
        (workspace.entryAt? handle).map fun entry => { entry with file := none }
      else workspace.entryAt? handle := by
  rw [Workspace.entryAt?, removed.entries, List.getElem?_mapIdx, detached]
  by_cases member : handle ∈ workspace.declaredBy file <;> simp [member, Workspace.entryAt?]

theorem Removed.idAt? : after.idAt? = workspace.idAt? := by
  funext handle
  rw [Workspace.idAt?, removed.entryAt? detached, Workspace.idAt?]
  split
  · rw [Option.map_map]
    rfl
  · rfl

/-- Nothing belongs to the removed file any more, and the other files have what they had. -/
theorem Removed.belongs {other handle : Nat} :
    (∃ entry, after.entryAt? handle = some entry ∧ entry.file = some other) ↔
      other ≠ file ∧ ∃ entry, workspace.entryAt? handle = some entry ∧ entry.file = some other := by
  rw [removed.entryAt? detached]
  split
  · rename_i member
    obtain ⟨entry, stands, attached⟩ := mem_declaredBy.mp member
    rw [stands, Option.map_some]
    constructor
    · rintro ⟨_, ⟨⟩, lost⟩
      simp at lost
    · rintro ⟨different, _, ⟨⟩, kept⟩
      rw [attached, Option.some.injEq] at kept
      exact absurd kept.symm different
  · rename_i outside
    constructor
    · rintro ⟨entry, stands, attached⟩
      refine ⟨?_, entry, stands, attached⟩
      rintro rfl
      exact outside (mem_declaredBy.mpr ⟨entry, stands, attached⟩)
    · exact And.right

theorem Removed.declaredBy (other : Nat) :
    after.declaredBy other = if other = file then [] else workspace.declaredBy other := by
  have count : after.entries.length = workspace.entries.length := by
    rw [removed.entries, List.length_mapIdx]
  rw [Workspace.declaredBy, count]
  split
  · rename_i same
    rw [List.filter_eq_nil_iff]
    intro handle member declares
    exact ((removed.belongs detached).mp (declares_eq_true.mp declares)).1 same
  · rename_i different
    apply List.filter_congr
    intro handle member
    rw [Bool.eq_iff_iff, declares_eq_true, declares_eq_true, removed.belongs detached]
    exact ⟨And.right, fun belongs => ⟨different, belongs⟩⟩

/-- A file that is still listed is not the removed one, and keeps its entries. -/
theorem Removed.declaredBy_kept (coherent : workspace.Coherent)
    (listed : file ∈ (workspace.catalog number).files) {other kept : Nat}
    (member : kept ∈ (after.catalog other).files) :
    after.declaredBy kept = workspace.declaredBy kept := by
  obtain ⟨before, remains⟩ := removed.mem_files.mp member
  rw [removed.declaredBy detached, if_neg]
  rintro rfl
  exact remains ⟨coherent.apart other number kept before listed, rfl⟩

theorem Removed.listed (coherent : workspace.Coherent)
    (listed : file ∈ (workspace.catalog number).files) (other : Nat) :
    (after.catalog other).entries = (after.catalog other).files.flatMap after.declaredBy := by
  have entries : (after.catalog other).entries =
      (after.catalog other).files.flatMap workspace.declaredBy := by
    rw [catalog_of_insert removed.catalogs]
    split
    · exact coherent.remaining number file
    · exact coherent.listed other
  rw [entries]
  exact List.flatMap_congr fun kept member =>
    (removed.declaredBy_kept detached coherent listed member).symm

theorem Coherent.of_removed (coherent : workspace.Coherent)
    (listed : file ∈ (workspace.catalog number).files) : after.Coherent where
  bounded other kept member := by
    rw [removed.files]
    exact coherent.bounded other kept (removed.mem_files.mp member).1
  ordered other := by
    rw [catalog_of_insert removed.catalogs]
    split
    · exact (coherent.ordered number).filter _
    · exact coherent.ordered other
  apart first second kept in_first in_second :=
    coherent.apart first second kept (removed.mem_files.mp in_first).1
      (removed.mem_files.mp in_second).1
  listed := removed.listed detached coherent listed
  attached handle entry owner stands attached := by
    obtain ⟨different, before, before_stands, before_attached⟩ :=
      (removed.belongs detached).mp ⟨entry, stands, attached⟩
    obtain ⟨other, member⟩ := coherent.attached handle before owner before_stands before_attached
    exact ⟨other, removed.mem_files.mpr ⟨member, fun same => different same.2⟩⟩
  sections other kept member loaded found := by
    rw [removed.fileAt?] at found
    rw [removed.declaredBy_kept detached coherent listed member, removed.idAt? detached]
    exact coherent.sections other kept (removed.mem_files.mp member).1 loaded found
  plain other loaded found := by
    rw [removed.fileAt?] at found
    exact coherent.plain other loaded found

end Removed

end Workspace
end PackageRepos
