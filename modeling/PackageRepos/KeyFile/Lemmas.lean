import PackageRepos.KeyFile.Basic

/-!
# Laws of edits to key files

Every edit of a key file is described through what the file shows: the names of its groups, and the
value that a group shows for a key.
-/

namespace PackageRepos
namespace KeyFile

theorem hasGroup_iff {keyFile : KeyFile} {group : Text} :
    keyFile.hasGroup group ↔ group ∈ keyFile.groupNames :=
  OrderedMap.contains_iff

theorem groupNames_declare (keyFile : KeyFile) (group : Text) :
    (keyFile.declare group).groupNames =
      if group ∈ keyFile.groupNames then keyFile.groupNames else keyFile.groupNames ++ [group] := by
  by_cases declared : group ∈ keyFile.groupNames
  · simp [declare, hasGroup_iff.mpr declared, declared]
  · have undeclared : keyFile.hasGroup group = false := by
      simpa using mt hasGroup_iff.mp declared
    have missing : group ∉ keyFile.groups.keys := declared
    simp [declare, undeclared, groupNames, OrderedMap.keys_insert, missing]

@[simp]
theorem value?_declare (keyFile : KeyFile) (group other key : Text) :
    (keyFile.declare group).value? other key = keyFile.value? other key := by
  by_cases declared : keyFile.hasGroup group
  · simp [declare, declared]
  · have missing : keyFile.groups.get? group = none := by
      simpa [hasGroup, OrderedMap.contains] using declared
    by_cases same : other = group <;>
      simp [declare, declared, value?, OrderedMap.get?_insert, same, missing]

theorem groupNames_put {keyFile : KeyFile} {group : Text} (declared : keyFile.hasGroup group)
    (key value : Text) : (keyFile.put group key value).groupNames = keyFile.groupNames := by
  have member : group ∈ keyFile.groups.keys := hasGroup_iff.mp declared
  by_cases shared : namesShared group
  · simp [put, shared, groupNames]
  · simp [put, shared, groupNames, OrderedMap.keys_insert, member]

/-- A group with a name of its own shows the value that was set last, and all else is as before. -/
theorem value?_put (keyFile : KeyFile) {group : Text} (named : namesShared group = false)
    (key value other otherKey : Text) :
    (keyFile.put group key value).value? other otherKey =
      if other = group ∧ otherKey = key then some value else keyFile.value? other otherKey := by
  by_cases sameGroup : other = group
  · by_cases sameKey : otherKey = key
    · simp [put, named, value?, sameGroup, sameKey]
    · cases found : keyFile.groups.get? group <;>
        simp [put, named, value?, sameGroup, sameKey, found, OrderedMap.get?_insert]
  · simp [put, named, value?, sameGroup, OrderedMap.get?_insert]

theorem groupNames_remove (keyFile : KeyFile) (group key : Text) :
    (keyFile.remove group key).groupNames = keyFile.groupNames := by
  by_cases declared : keyFile.hasGroup group
  · have member : group ∈ keyFile.groups.keys := hasGroup_iff.mp declared
    by_cases shared : namesShared group
    · simp [remove, declared, shared, groupNames]
    · simp [remove, declared, shared, groupNames, OrderedMap.keys_insert, member]
  · simp [remove, declared]

/-- After its own entry was removed, a group with a name of its own shows the shared one. -/
theorem value?_remove {keyFile : KeyFile} {group : Text} (declared : keyFile.hasGroup group)
    (named : namesShared group = false) (key other otherKey : Text) :
    (keyFile.remove group key).value? other otherKey =
      if other = group ∧ otherKey = key then keyFile.shared.get? key
      else keyFile.value? other otherKey := by
  by_cases sameGroup : other = group
  · by_cases sameKey : otherKey = key
    · simp [remove, declared, named, value?, sameGroup, sameKey, OrderedMap.get?_erase]
    · cases found : keyFile.groups.get? group <;>
        simp [remove, declared, named, value?, sameGroup, sameKey, found, OrderedMap.get?_erase,
          OrderedMap.get?_empty]
  · simp [remove, declared, named, value?, sameGroup, OrderedMap.get?_insert]

end KeyFile
end PackageRepos
