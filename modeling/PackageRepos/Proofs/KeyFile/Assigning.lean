import PackageRepos.KeyFile.Lemmas
import PackageRepos.Proofs.KeyFile.Loading

/-!
# Assignments to key files

Setting an entry of a declared group or removing it, as one operation: what it changes, what it
leaves as it was, and that the key file can still be printed and loaded again.
-/

namespace PackageRepos
namespace KeyFile

/-- Sets an entry of a group to a text, or removes it where there is none. -/
def assign (keyFile : KeyFile) (group key : Text) : Option Text → KeyFile
  | some text => keyFile.put group key text
  | none => keyFile.remove group key

section Assign

variable {keyFile : KeyFile} {group : Text} (declared : keyFile.hasGroup group = true)
  (named : namesShared group = false)

include declared in
theorem groupNames_assign (key : Text) (change : Option Text) :
    (keyFile.assign group key change).groupNames = keyFile.groupNames := by
  cases change with
  | none => exact groupNames_remove keyFile group key
  | some text => exact groupNames_put declared key text

include named in
theorem shared_assign (key : Text) (change : Option Text) :
    (keyFile.assign group key change).shared = keyFile.shared := by
  cases change with
  | none =>
    simp only [assign, remove, named, Bool.false_eq_true, if_false]
    split <;> rfl
  | some text => simp [assign, put, named]

include declared named in
/-- An assignment changes what one group shows for one key, and nothing else. -/
theorem value?_assign (unshared : keyFile.shared = ∅) (key : Text) (change : Option Text)
    (other asked : Text) :
    (keyFile.assign group key change).value? other asked =
      if other = group ∧ asked = key then change else keyFile.value? other asked := by
  cases change with
  | none => simp [assign, value?_remove declared named, unshared]
  | some text => exact value?_put keyFile named key text other asked

include declared in
/-- A removed entry takes its comments with it, and all other comments stay. -/
theorem commentsAt_assign (key : Text) (change : Option Text) (anchor : Anchor) :
    (keyFile.assign group key change).commentsAt anchor =
      if change = none ∧ anchor = { group := group, key := some key } then []
      else keyFile.commentsAt anchor := by
  cases change with
  | none =>
    have erased : (keyFile.assign group key none).comments =
        keyFile.comments.erase { group := group, key := some key } := by
      simp only [assign, remove, declared, if_true]
      split <;> rfl
    rw [commentsAt, erased, OrderedMap.get?_erase]
    by_cases same : anchor = { group := group, key := some key }
    · simp [same]
    · simp [same, commentsAt]
  | some text =>
    simp only [assign, put, reduceCtorEq, false_and, if_false]
    split <;> rfl

include declared in
theorem trailing_assign (key : Text) (change : Option Text) :
    (keyFile.assign group key change).trailing = keyFile.trailing := by
  cases change with
  | none =>
    simp only [assign, remove, declared, if_true]
    split <;> rfl
  | some text =>
    simp only [assign, put]
    split <;> rfl

end Assign

/-- No entry is shared, and each group has a name of its own. -/
structure Plain (keyFile : KeyFile) : Prop where
  unshared : keyFile.shared = ∅
  named : ∀ group ∈ keyFile.groupNames, namesShared group = false

theorem namesShared_of_isGroupName {group : Text} (proper : IsGroupName group) :
    namesShared group = false := by
  have other : group ≠ sharedGroup := by
    rintro rfl
    exact proper.single (by simp [sharedGroup])
  simp [namesShared, proper.nonempty, other]

theorem Proper.plain {keyFile : KeyFile} (proper : keyFile.Proper) : keyFile.Plain :=
  ⟨proper.unshared, fun group member => namesShared_of_isGroupName (proper.named group member)⟩

theorem Plain.assign {keyFile : KeyFile} {group : Text} (plain : keyFile.Plain)
    (declared : group ∈ keyFile.groupNames) (key : Text) (change : Option Text) :
    (keyFile.assign group key change).Plain := by
  constructor
  · rw [shared_assign (plain.named group declared), plain.unshared]
  · rw [groupNames_assign (hasGroup_iff.mpr declared)]
    exact plain.named

/-! ## Key files in files -/

/-- A text that a file can hold for a key. -/
structure Storable (key value : Text) : Prop extends IsEntry key value where
  untabbed : '\t' ∉ key ∧ '\t' ∉ value
  returnless : '\r' ∉ key ∧ '\r' ∉ value

section Sound

variable {keyFile : KeyFile} {group key : Text} {change : Option Text}

theorem Lacks.assign {char : Char} (lacks : keyFile.Lacks char) (plain : keyFile.Plain)
    (declared : group ∈ keyFile.groupNames)
    (absent : ∀ text, change = some text → char ∉ key ∧ char ∉ text) :
    (keyFile.assign group key change).Lacks char := by
  have stands := hasGroup_iff.mpr declared
  constructor
  · rw [groupNames_assign stands]
    exact lacks.groups
  · intro other asked value found
    rw [value?_assign stands (plain.named group declared) plain.unshared] at found
    split at found
    · rename_i same
      rw [same.2]
      exact absent value found
    · exact lacks.entries other asked value found
  · intro anchor line member
    rw [commentsAt_assign stands] at member
    split at member
    · simp at member
    · exact lacks.comments anchor line member
  · rw [trailing_assign stands]
    exact lacks.trailing

theorem Proper.assign (proper : keyFile.Proper) (declared : group ∈ keyFile.groupNames)
    (entry : ∀ text, change = some text → IsEntry key text) :
    (keyFile.assign group key change).Proper := by
  have stands := hasGroup_iff.mpr declared
  have plain := proper.plain
  constructor
  · exact (plain.assign declared key change).unshared
  · rw [groupNames_assign stands]
    exact proper.named
  · intro other asked value found
    rw [value?_assign stands (plain.named group declared) plain.unshared] at found
    split at found
    · rename_i same
      rw [same.2]
      exact (entry value found).isStored
    · exact proper.stored other asked value found
  · intro anchor line member
    rw [commentsAt_assign stands] at member
    split at member
    · simp at member
    · exact proper.commented anchor line member
  · rw [trailing_assign stands]
    exact proper.trailed

/-- What files can describe, they can describe after an assignment of what they can hold. -/
theorem Sound.assign (sound : keyFile.Sound) (declared : group ∈ keyFile.groupNames)
    (storable : ∀ text, change = some text → Storable key text) :
    (keyFile.assign group key change).Sound where
  toProper := sound.toProper.assign declared fun text changed => (storable text changed).toIsEntry
  untabbed := sound.untabbed.assign sound.plain declared fun text changed =>
    (storable text changed).untabbed
  returnless := sound.returnless.assign sound.plain declared fun text changed =>
    (storable text changed).returnless

theorem SingleLined.assign (single : keyFile.SingleLined) (plain : keyFile.Plain)
    (declared : group ∈ keyFile.groupNames)
    (storable : ∀ text, change = some text → Storable key text) :
    (keyFile.assign group key change).SingleLined := by
  intro other asked value found
  rw [value?_assign (hasGroup_iff.mpr declared) (plain.named group declared) plain.unshared]
    at found
  split at found
  · exact (storable value found).value_single
  · exact single other asked value found

end Sound

end KeyFile
end PackageRepos
