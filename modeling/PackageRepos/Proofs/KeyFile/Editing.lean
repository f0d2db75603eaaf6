import PackageRepos.KeyFile.Edit
import PackageRepos.KeyFile.Lemmas
import PackageRepos.Proofs.KeyFile.Assigning

/-!
# Key files as maps of maps

What edits make of a key file, as its queries tell it. A group with a name of its own is a map of
its own. The group without a name is not: what is set there is shared by every group, so that other
groups come to show it, and a removal does not hide it.
-/

namespace PackageRepos
namespace KeyFile

/-! ## Edits -/

/-- The ways in which an entry is set. -/
inductive Setter where
  | text
  | list
  | flag
  | number

/-- Sets an entry in one of the ways. -/
def setBy (keyFile : KeyFile) : Setter → Value → Value → Value → Edited
  | .text => keyFile.setText
  | .list => keyFile.setList
  | .flag => keyFile.setFlag
  | .number => keyFile.setNumber

/-- An edit that a caller asks for. -/
inductive Edit where
  | set (setter : Setter) (group key value : Value)
  | remove (group key : Value)

/-- The key file that an edit leaves, whether it succeeds or not. -/
def edit (keyFile : KeyFile) : Edit → KeyFile
  | .set setter group key value => (keyFile.setBy setter group key value).2
  | .remove group key => (keyFile.removeEntry group key).2

/-- The key file that edits leave, one after the other. -/
def edited (keyFile : KeyFile) (edits : List Edit) : KeyFile := edits.foldl edit keyFile

/-- The edit sets an entry of the group without a name. -/
def Edit.IsNameless (edit : Edit) : Prop :=
  ∃ setter key value, edit = .set setter (.text []) key value

/-- All that an edit can do: nothing, declare a group, set an entry of a group that it declares, or
remove an entry, with or without comments. -/
inductive Effect (keyFile : KeyFile) (edit : Edit) : KeyFile → Prop
  | none : Effect keyFile edit keyFile
  | declared {group : Text} (unreserved : group ≠ sharedGroup) :
      Effect keyFile edit (keyFile.declare group)
  | put {group : Text} (unreserved : group ≠ sharedGroup) (named : group = [] → edit.IsNameless)
      (key value : Text) : Effect keyFile edit ((keyFile.declare group).put group key value)
  | removed (group key : Text) (comments : OrderedMap Anchor (List Text)) :
      Effect keyFile edit { keyFile.remove group key with comments := comments }

theorem effect_setText (keyFile : KeyFile) {edit : Edit} {group : Value}
    (named : group = .text [] → edit.IsNameless) (key value : Value) :
    keyFile.Effect edit (keyFile.setText group key value).2 := by
  unfold setText
  split
  · rename_i name
    split
    · exact .none
    · rename_i unreserved
      simp only
      split
      · exact .put unreserved (fun nameless => named (congrArg Value.text nameless)) _ _
      · exact .declared unreserved
      · exact .declared unreserved
  · split
    · exact .none
    · exact .none

theorem effect_edit (keyFile : KeyFile) (edit : Edit) :
    keyFile.Effect edit (keyFile.edit edit) := by
  cases edit with
  | set setter group key value =>
    have named : group = .text [] → (Edit.set setter group key value).IsNameless := by
      rintro rfl
      exact ⟨setter, key, value, rfl⟩
    cases setter with
    | text => exact effect_setText keyFile named key value
    | list =>
      simp only [KeyFile.edit, setBy, setList]
      split
      · exact effect_setText keyFile named key _
      · exact .none
    | flag => exact effect_setText keyFile named key _
    | number =>
      simp only [KeyFile.edit, setBy, setNumber]
      split
      · exact effect_setText keyFile named key _
      · exact .none
  | remove group key =>
    simp only [KeyFile.edit, removeEntry]
    split
    · rename_i name
      split
      · split
        · exact .removed name _ (keyFile.remove name _).comments
        · exact .removed name _ _
      · exact .none
    · exact .none

/-! ## Where entries are kept -/

theorem namesShared_iff {group : Text} :
    namesShared group = true ↔ group = [] ∨ group = sharedGroup := by
  simp [namesShared]

theorem namesShared_eq_false {group : Text} (named : group ≠ [])
    (unreserved : group ≠ sharedGroup) :
    namesShared group = false := by
  simp [namesShared, named, unreserved]

/-- The value that a group sets itself for a key. -/
def ownValue? (keyFile : KeyFile) (group key : Text) : Option Text :=
  (keyFile.groups.get? group).bind fun entries => entries.get? key

theorem value?_eq (keyFile : KeyFile) (group key : Text) :
    keyFile.value? group key = (keyFile.ownValue? group key).or (keyFile.shared.get? key) := rfl

/-- The group without a name sets nothing itself, no group has the name of the shared entries, and
entries are shared only by a file that has the group without a name. -/
structure Routed (keyFile : KeyFile) : Prop where
  nameless : ∀ key, keyFile.ownValue? [] key = none
  reserved : sharedGroup ∉ keyFile.groupNames
  declared : ∀ key value, keyFile.shared.get? key = some value → [] ∈ keyFile.groupNames

theorem routed_empty : Routed ∅ where
  nameless _ := rfl
  reserved := by decide
  declared key value found := by cases found

theorem Plain.routed {keyFile : KeyFile} (plain : keyFile.Plain) : keyFile.Routed where
  nameless key := by
    have missing : [] ∉ keyFile.groups.keys := fun member => by
      simpa [namesShared] using plain.named [] member
    rw [ownValue?, OrderedMap.get?_eq_none_iff.mpr missing]
    rfl
  reserved member := by simpa [namesShared] using plain.named sharedGroup member
  declared key value found := by
    rw [plain.unshared] at found
    cases found

theorem mem_groupNames_declare {keyFile : KeyFile} {group other : Text} :
    other ∈ (keyFile.declare group).groupNames ↔ other ∈ keyFile.groupNames ∨ other = group := by
  rw [groupNames_declare]
  split
  · rename_i declared
    constructor
    · exact .inl
    · rintro (member | rfl)
      · exact member
      · exact declared
  · simp

theorem hasGroup_declare_self (keyFile : KeyFile) (group : Text) :
    (keyFile.declare group).hasGroup group = true :=
  hasGroup_iff.mpr (mem_groupNames_declare.mpr (.inr rfl))

theorem shared_declare (keyFile : KeyFile) (group : Text) :
    (keyFile.declare group).shared = keyFile.shared := by
  unfold declare
  split <;> rfl

theorem ownValue?_declare (keyFile : KeyFile) (group other key : Text) :
    (keyFile.declare group).ownValue? other key = keyFile.ownValue? other key := by
  by_cases declared : keyFile.hasGroup group
  · simp [declare, declared]
  · have missing : keyFile.groups.get? group = none := by
      simpa [hasGroup, OrderedMap.contains] using declared
    by_cases same : other = group <;>
      simp [declare, declared, ownValue?, OrderedMap.get?_insert, same, missing]

theorem ownValue?_put (keyFile : KeyFile) (group key value other asked : Text) :
    (keyFile.put group key value).ownValue? other asked =
      if namesShared group = false ∧ other = group ∧ asked = key then some value
      else keyFile.ownValue? other asked := by
  cases named : namesShared group with
  | true => simp [put, named, ownValue?]
  | false =>
    by_cases same : other = group
    · cases found : keyFile.groups.get? group <;>
        simp [put, named, ownValue?, same, found, OrderedMap.get?_insert]
    · simp [put, named, ownValue?, same, OrderedMap.get?_insert]

theorem get?_shared_put (keyFile : KeyFile) (group key value asked : Text) :
    (keyFile.put group key value).shared.get? asked =
      if namesShared group = true ∧ asked = key then some value
      else keyFile.shared.get? asked := by
  cases named : namesShared group with
  | true => simp [put, named, OrderedMap.get?_insert]
  | false => simp [put, named]

theorem ownValue?_remove {keyFile : KeyFile} {group : Text} (declared : keyFile.hasGroup group)
    (key other asked : Text) :
    (keyFile.remove group key).ownValue? other asked =
      if namesShared group = false ∧ other = group ∧ asked = key then none
      else keyFile.ownValue? other asked := by
  cases named : namesShared group with
  | true => simp [remove, declared, named, ownValue?]
  | false =>
    by_cases same : other = group
    · cases found : keyFile.groups.get? group <;>
        simp [remove, declared, named, ownValue?, same, found, OrderedMap.get?_erase]
    · simp [remove, declared, named, ownValue?, same, OrderedMap.get?_insert]

theorem get?_shared_remove {keyFile : KeyFile} {group : Text} (declared : keyFile.hasGroup group)
    (key asked : Text) :
    (keyFile.remove group key).shared.get? asked =
      if namesShared group = true ∧ asked = key then none else keyFile.shared.get? asked := by
  cases named : namesShared group with
  | true => simp [remove, declared, named, OrderedMap.get?_erase]
  | false => simp [remove, declared, named]

theorem remove_of_not_hasGroup {keyFile : KeyFile} {group : Text}
    (undeclared : ¬keyFile.hasGroup group) (key : Text) : keyFile.remove group key = keyFile := by
  simp [remove, undeclared]

theorem Routed.declare {keyFile : KeyFile} (routed : keyFile.Routed) {group : Text}
    (unreserved : group ≠ sharedGroup) : (keyFile.declare group).Routed where
  nameless key := by rw [ownValue?_declare, routed.nameless]
  reserved member := by
    rcases mem_groupNames_declare.mp member with before | same
    · exact routed.reserved before
    · exact unreserved same.symm
  declared key value found := by
    rw [shared_declare] at found
    exact mem_groupNames_declare.mpr (.inl (routed.declared key value found))

theorem Routed.put {keyFile : KeyFile} (routed : keyFile.Routed) {group : Text}
    (declared : keyFile.hasGroup group) (key value : Text) :
    (keyFile.put group key value).Routed where
  nameless asked := by
    rw [ownValue?_put, if_neg, routed.nameless]
    rintro ⟨named, rfl, -⟩
    simp [namesShared] at named
  reserved := by
    rw [groupNames_put declared]
    exact routed.reserved
  declared asked shown found := by
    rw [groupNames_put declared]
    rw [get?_shared_put] at found
    split at found
    · rename_i here
      have member := hasGroup_iff.mp declared
      have nameless : group = [] := by
        rcases namesShared_iff.mp here.1 with nameless | reserved
        · exact nameless
        · exact absurd (reserved ▸ member) routed.reserved
      exact nameless ▸ member
    · exact routed.declared asked shown found

theorem Routed.remove {keyFile : KeyFile} (routed : keyFile.Routed) (group key : Text) :
    (keyFile.remove group key).Routed := by
  by_cases declared : keyFile.hasGroup group
  · refine ⟨fun asked => ?_, ?_, fun asked shown found => ?_⟩
    · rw [ownValue?_remove declared]
      split
      · rfl
      · exact routed.nameless asked
    · rw [groupNames_remove]
      exact routed.reserved
    · rw [groupNames_remove]
      rw [get?_shared_remove declared] at found
      split at found
      · simp at found
      · exact routed.declared asked shown found
  · rw [remove_of_not_hasGroup declared]
    exact routed

/-- Whatever an edit does, entries stay where they are kept. -/
theorem Effect.routed {keyFile after : KeyFile} {edit : Edit} (effect : keyFile.Effect edit after)
    (routed : keyFile.Routed) : after.Routed := by
  cases effect with
  | none => exact routed
  | declared unreserved => exact routed.declare unreserved
  | @put group unreserved named key value =>
    exact (routed.declare unreserved).put (hasGroup_declare_self keyFile group) key value
  | removed group key comments =>
    obtain ⟨nameless, reserved, declared⟩ := routed.remove group key
    exact ⟨nameless, reserved, declared⟩

/-- Only a set in the group without a name makes entries shared. -/
theorem Effect.unshared {keyFile after : KeyFile} {edit : Edit} (effect : keyFile.Effect edit after)
    (named : ¬edit.IsNameless) (unshared : keyFile.shared = ∅) : after.shared = ∅ := by
  cases effect with
  | none => exact unshared
  | declared => rw [shared_declare, unshared]
  | @put group unreserved nameless key value =>
    have own : namesShared group = false :=
      namesShared_eq_false (fun empty => named (nameless empty)) unreserved
    rw [KeyFile.put, own]
    exact (shared_declare keyFile group).trans unshared
  | removed group key comments =>
    show (keyFile.remove group key).shared = ∅
    unfold KeyFile.remove
    split
    · split
      · show keyFile.shared.erase key = ∅
        rw [unshared]
        rfl
      · exact unshared
    · exact unshared

theorem Routed.edited {keyFile : KeyFile} (routed : keyFile.Routed) (edits : List Edit) :
    (keyFile.edited edits).Routed := by
  induction edits generalizing keyFile with
  | nil => exact routed
  | cons edit rest ih => exact ih ((effect_edit keyFile edit).routed routed)

theorem shared_edited {keyFile : KeyFile} {edits : List Edit} (unshared : keyFile.shared = ∅)
    (named : ∀ edit ∈ edits, ¬edit.IsNameless) : (keyFile.edited edits).shared = ∅ := by
  induction edits generalizing keyFile with
  | nil => exact unshared
  | cons edit rest ih =>
    have here := (effect_edit keyFile edit).unshared (named edit List.mem_cons_self) unshared
    exact ih here fun other member => named other (List.mem_cons_of_mem edit member)

/-! ## The laws of a map of maps -/

/-- Queries about a group and a key are answered the same. -/
def AnswersSame (before after : KeyFile) (group key : Text) : Prop :=
  after.hasKey group key = before.hasKey group key ∧
    after.lookup group key = before.lookup group key

/-- What setting an entry comes to in a map of maps. -/
structure SetLaws (before : KeyFile) (group key value : Text) (after : KeyFile) : Prop where
  shown : after.lookup group key = .ok value
  groups : after.groupNames =
    if group ∈ before.groupNames then before.groupNames else before.groupNames ++ [group]
  others : ∀ other ∈ before.groupNames, ∀ asked, ¬(other = group ∧ asked = key) →
    AnswersSame before after other asked

/-- What removing an entry comes to in a map of maps. -/
structure RemoveLaws (before : KeyFile) (group key : Text) (after : KeyFile) : Prop where
  gone : after.hasKey group key = false
  groups : after.groupNames = before.groupNames
  others : ∀ other asked, ¬(other = group ∧ asked = key) → AnswersSame before after other asked

/-- Every group with a name sets the key itself or shows this value for it already. -/
def Shields (keyFile : KeyFile) (key value : Text) : Prop :=
  ∀ group ∈ keyFile.groupNames, group ≠ [] →
    (∃ own, keyFile.ownValue? group key = some own) ∨ keyFile.shared.get? key = some value

theorem answersSame_of_eq {before after : KeyFile} {group key : Text}
    (groups : group ∈ after.groupNames ↔ group ∈ before.groupNames)
    (shown : after.value? group key = before.value? group key)
    (shared : namesShared group = true → after.shared.get? key = before.shared.get? key) :
    AnswersSame before after group key := by
  have declared : after.hasGroup group = before.hasGroup group := by
    rw [Bool.eq_iff_iff, hasGroup_iff, hasGroup_iff, groups]
  constructor
  · unfold hasKey
    split
    · rename_i names
      simp only [OrderedMap.contains, shared names]
    · rw [declared, shown]
  · rw [lookup, lookup, declared, shown]

theorem lookup_of_declared {keyFile : KeyFile} {group key value : Text}
    (declared : group ∈ keyFile.groupNames) (shown : keyFile.value? group key = some value) :
    keyFile.lookup group key = .ok value := by
  rw [lookup, hasGroup_iff.mpr declared, Bool.true_or, if_pos rfl, shown]

theorem value?_of_lookup_eq {before after : KeyFile} {group key : Text}
    (before_declared : group ∈ before.groupNames) (after_declared : group ∈ after.groupNames)
    (same : after.lookup group key = before.lookup group key) :
    after.value? group key = before.value? group key := by
  rw [lookup, lookup, hasGroup_iff.mpr before_declared, hasGroup_iff.mpr after_declared,
    Bool.true_or, if_pos rfl, if_pos rfl] at same
  cases left : after.value? group key <;> cases right : before.value? group key <;>
    simp [left, right] at same ⊢
  exact same

theorem setText_eq_ok_iff {keyFile after : KeyFile} {group key value : Text} :
    keyFile.setText (.text group) (.text key) (.text value) = (.ok (), after) ↔
      group ≠ sharedGroup ∧ (keyFile.declare group).put group key value = after := by
  unfold setText
  simp only
  split
  · rename_i reserved
    simp [reserved]
  · rename_i unreserved
    simp [unreserved]

/-! ### Setting -/

theorem groupNames_declare_put (keyFile : KeyFile) (group key value : Text) :
    ((keyFile.declare group).put group key value).groupNames =
      (keyFile.declare group).groupNames :=
  groupNames_put (hasGroup_declare_self keyFile group) key value

theorem mem_groupNames_declare_put {keyFile : KeyFile} {other : Text} (group key value : Text)
    (member : other ∈ keyFile.groupNames ∨ other = group) :
    other ∈ ((keyFile.declare group).put group key value).groupNames := by
  rw [groupNames_declare_put]
  exact mem_groupNames_declare.mpr member

/-- A set in a group with a name obeys the laws. -/
theorem setLaws_of_named (keyFile : KeyFile) {group : Text} (nameless : group ≠ [])
    (unreserved : group ≠ sharedGroup) (key value : Text) :
    SetLaws keyFile group key value ((keyFile.declare group).put group key value) := by
  have own := ownValue?_put (keyFile.declare group) group key value
  have shared := get?_shared_put (keyFile.declare group) group key value
  simp only [ownValue?_declare, shared_declare, namesShared_eq_false nameless unreserved,
    Bool.false_eq_true, false_and, if_false, true_and] at own shared
  refine ⟨?_, by rw [groupNames_declare_put, groupNames_declare], ?_⟩
  · apply lookup_of_declared (mem_groupNames_declare_put _ key value (.inr rfl))
    rw [value?_eq, own, if_pos ⟨rfl, rfl⟩]
    rfl
  · intro other member asked different
    have kept := mem_groupNames_declare_put group key value (.inl member)
    refine answersSame_of_eq ⟨fun _ => member, fun _ => kept⟩ ?_ fun _ => shared asked
    rw [value?_eq, value?_eq, own, shared, if_neg different]

/-- A set in the group without a name obeys the laws unless it shows through in another group. -/
theorem Routed.setLaws_nameless_iff {keyFile : KeyFile} (routed : keyFile.Routed)
    (key value : Text) :
    SetLaws keyFile [] key value ((keyFile.declare []).put [] key value) ↔
      keyFile.Shields key value := by
  have own := ownValue?_put (keyFile.declare []) [] key value
  have shared := get?_shared_put (keyFile.declare []) [] key value
  have names : namesShared [] = true := rfl
  simp only [ownValue?_declare, shared_declare, names, Bool.true_eq_false, false_and, if_false,
    true_and] at own shared
  constructor
  · intro laws other member named
    have different : ¬(other = [] ∧ key = key) := fun same => named same.1
    have same := value?_of_lookup_eq member (mem_groupNames_declare_put [] key value (.inl member))
      (laws.others other member key different).2
    rw [value?_eq, value?_eq, own, shared, if_pos rfl] at same
    cases found : keyFile.ownValue? other key with
    | some own => exact .inl ⟨own, rfl⟩
    | none =>
      rw [found] at same
      exact .inr same.symm
  · intro shielded
    refine ⟨?_, by rw [groupNames_declare_put, groupNames_declare], ?_⟩
    · apply lookup_of_declared (mem_groupNames_declare_put _ key value (.inr rfl))
      rw [value?_eq, own, shared, routed.nameless, if_pos rfl]
      rfl
    · intro other member asked different
      have kept := mem_groupNames_declare_put [] key value (.inl member)
      refine answersSame_of_eq ⟨fun _ => member, fun _ => kept⟩ ?_ ?_
      · rw [value?_eq, value?_eq, own, shared]
        split
        · rename_i same
          subst same
          have filled : other ≠ [] := fun empty => different ⟨empty, rfl⟩
          rcases shielded other member filled with ⟨found, found_eq⟩ | found_eq
          · rw [found_eq]
            rfl
          · rw [found_eq]
        · rfl
      · intro names
        rw [shared, if_neg]
        rintro rfl
        rcases namesShared_iff.mp names with rfl | rfl
        · exact different ⟨rfl, rfl⟩
        · exact routed.reserved member

/-- A set obeys the laws unless it is one of the group without a name that shows through in another
group. -/
theorem Routed.setLaws_iff {keyFile : KeyFile} (routed : keyFile.Routed) {group : Text}
    (unreserved : group ≠ sharedGroup) (key value : Text) :
    SetLaws keyFile group key value ((keyFile.declare group).put group key value) ↔
      group ≠ [] ∨ keyFile.Shields key value := by
  by_cases nameless : group = []
  · subst nameless
    rw [routed.setLaws_nameless_iff]
    exact ⟨.inr, fun either => either.resolve_left fun named => named rfl⟩
  · exact ⟨fun _ => .inl nameless, fun _ => setLaws_of_named keyFile nameless unreserved key value⟩

/-! ### Removing -/

theorem removeEntry_eq (keyFile : KeyFile) (group key : Text) :
    keyFile.removeEntry (.text group) (.text key) = (.ok (), keyFile.remove group key) := by
  by_cases declared : keyFile.hasGroup group
  · simp [removeEntry, declared]
  · simp [removeEntry, declared, remove_of_not_hasGroup]

/-- A removal in a group with a name obeys the laws unless the key is shared and therefore still
shown. -/
theorem removeLaws_iff_of_named {keyFile : KeyFile} {group : Text}
    (member : group ∈ keyFile.groupNames) (nameless : group ≠ [])
    (unreserved : group ≠ sharedGroup) (key : Text) :
    RemoveLaws keyFile group key (keyFile.remove group key) ↔
      keyFile.shared.get? key = none := by
  have named := namesShared_eq_false nameless unreserved
  have declared := hasGroup_iff.mpr member
  have own := ownValue?_remove declared key
  have shared := get?_shared_remove declared key
  simp only [named, Bool.false_eq_true, false_and, if_false, true_and] at own shared
  have stands : (keyFile.remove group key).hasGroup group = true :=
    hasGroup_iff.mpr (groupNames_remove keyFile group key ▸ member)
  have gone : (keyFile.remove group key).hasKey group key = false ↔
      keyFile.shared.get? key = none := by
    simp [hasKey, named, stands, value?_eq, own, shared]
  refine ⟨fun laws => gone.mp laws.gone, fun unshared => ?_⟩
  refine ⟨gone.mpr unshared, groupNames_remove keyFile group key, ?_⟩
  intro other asked different
  refine answersSame_of_eq (by rw [groupNames_remove]) ?_ fun _ => shared asked
  rw [value?_eq, value?_eq, own, shared, if_neg different]

/-- A removal in the group without a name obeys the laws unless the key is shared and therefore goes
from other groups as well. -/
theorem removeLaws_nameless_iff {keyFile : KeyFile} (member : [] ∈ keyFile.groupNames)
    (key : Text) :
    RemoveLaws keyFile [] key (keyFile.remove [] key) ↔ keyFile.shared.get? key = none := by
  have declared := hasGroup_iff.mpr member
  have own := ownValue?_remove declared key
  have shared := get?_shared_remove declared key
  have names : namesShared [] = true := rfl
  simp only [names, Bool.true_eq_false, false_and, if_false, true_and] at own shared
  constructor
  · intro laws
    have same := (laws.others sharedGroup key (by simp [sharedGroup])).1
    have reserved : namesShared sharedGroup = true := rfl
    simp only [hasKey, reserved, if_true, OrderedMap.contains, shared] at same
    exact Option.isNone_iff_eq_none.mp (Option.isSome_eq_false_iff.mp same.symm)
  · intro unshared
    have kept : ∀ asked, (keyFile.remove [] key).shared.get? asked =
        keyFile.shared.get? asked := by
      intro asked
      rw [shared]
      split
      · rename_i same
        rw [same, unshared]
      · rfl
    refine ⟨?_, groupNames_remove keyFile [] key, fun other asked _ => ?_⟩
    · simp [hasKey, names, OrderedMap.contains, kept, unshared]
    · refine answersSame_of_eq (by rw [groupNames_remove]) ?_ fun _ => kept asked
      rw [value?_eq, value?_eq, own, kept]

/-- Where there is no such group a removal does nothing, and obeys the laws unless the group has the
name of the shared entries and shows the key. -/
theorem Routed.removeLaws_iff_of_missing {keyFile : KeyFile} (routed : keyFile.Routed)
    {group : Text} (missing : group ∉ keyFile.groupNames) (key : Text) :
    RemoveLaws keyFile group key (keyFile.remove group key) ↔
      keyFile.shared.get? key = none ∨ group ≠ sharedGroup := by
  have undeclared := mt hasGroup_iff.mp missing
  rw [remove_of_not_hasGroup undeclared]
  have gone : keyFile.hasKey group key = false ↔
      keyFile.shared.get? key = none ∨ group ≠ sharedGroup := by
    by_cases reserved : group = sharedGroup
    · simp [hasKey, reserved, namesShared, OrderedMap.contains]
    · by_cases nameless : group = []
      · have none_shared : keyFile.shared.get? key = none := by
          cases found : keyFile.shared.get? key with
          | none => rfl
          | some value => exact absurd (routed.declared key value found) (nameless ▸ missing)
        simp [hasKey, nameless, namesShared, OrderedMap.contains, none_shared]
      · simp [hasKey, namesShared_eq_false nameless reserved, undeclared, reserved]
  exact ⟨fun laws => gone.mp laws.gone,
    fun free => ⟨gone.mpr free, rfl, fun _ _ _ => ⟨rfl, rfl⟩⟩⟩

/-- A removal obeys the laws unless the key is shared, in which case it is still shown or goes from
other groups as well. Where there is no such group there is nothing to remove. -/
theorem Routed.removeLaws_iff {keyFile : KeyFile} (routed : keyFile.Routed) (group key : Text) :
    RemoveLaws keyFile group key (keyFile.remove group key) ↔
      keyFile.shared.get? key = none ∨
        group ∉ keyFile.groupNames ∧ group ≠ sharedGroup := by
  by_cases member : group ∈ keyFile.groupNames
  · have present : keyFile.shared.get? key = none ∨
        group ∉ keyFile.groupNames ∧ group ≠ sharedGroup ↔ keyFile.shared.get? key = none :=
      or_iff_left fun absent => absent.1 member
    rw [present]
    by_cases nameless : group = []
    · subst nameless
      exact removeLaws_nameless_iff member key
    · have unreserved : group ≠ sharedGroup := fun reserved => routed.reserved (reserved ▸ member)
      exact removeLaws_iff_of_named member nameless unreserved key
  · rw [routed.removeLaws_iff_of_missing member]
    simp [member]

/-- However a key file came about, which of its edits obey the laws of a map of maps is a matter of
what is shared, and nothing is shared unless an entry of the group without a name was set. -/
theorem laws_of_edits {start : KeyFile} (origin : start = ∅ ∨ ∃ text, parse text = .ok start)
    (edits : List Edit) :
    let keyFile := start.edited edits
    (∀ group key value after,
        keyFile.setText (.text group) (.text key) (.text value) = (.ok (), after) →
          (SetLaws keyFile group key value after ↔ group ≠ [] ∨ keyFile.Shields key value)) ∧
      (∀ group key, ∃ after, keyFile.removeEntry (.text group) (.text key) = (.ok (), after) ∧
        (RemoveLaws keyFile group key after ↔
          keyFile.shared.get? key = none ∨
            group ∉ keyFile.groupNames ∧ group ≠ sharedGroup)) ∧
      ((∀ edit ∈ edits, ¬edit.IsNameless) → keyFile.shared = ∅) := by
  intro keyFile
  have start_plain : start.Routed ∧ start.shared = ∅ := by
    rcases origin with rfl | ⟨text, parsed⟩
    · exact ⟨routed_empty, rfl⟩
    · have plain := (proper_of_parse parsed).plain
      exact ⟨plain.routed, plain.unshared⟩
  have routed : keyFile.Routed := start_plain.1.edited edits
  refine ⟨?_, ?_, shared_edited start_plain.2⟩
  · intro group key value after done
    obtain ⟨unreserved, rfl⟩ := setText_eq_ok_iff.mp done
    exact routed.setLaws_iff unreserved key value
  · intro group key
    exact ⟨_, removeEntry_eq keyFile group key, routed.removeLaws_iff group key⟩

/-- The edits that set one entry each of two groups with names. -/
def plainEdits : List Edit :=
  [.set .text (.text (Text.of "a")) (.text (Text.of "x")) (.text (Text.of "1")),
    .set .text (.text (Text.of "b")) (.text (Text.of "x")) (.text (Text.of "2"))]

/-- After these an entry of either group is set or removed without a trace in the other one. -/
theorem plainEdits_laws : ∃ set removed,
    (edited ∅ plainEdits).setText (.text (Text.of "a")) (.text (Text.of "y"))
        (.text (Text.of "3")) = (.ok (), set) ∧
      SetLaws (edited ∅ plainEdits) (Text.of "a") (Text.of "y") (Text.of "3") set ∧
      (edited ∅ plainEdits).removeEntry (.text (Text.of "a")) (.text (Text.of "x")) =
        (.ok (), removed) ∧
      RemoveLaws (edited ∅ plainEdits) (Text.of "a") (Text.of "x") removed := by
  obtain ⟨sets, removes, unshared⟩ := laws_of_edits (.inl rfl) plainEdits
  obtain ⟨removed, done, laws⟩ := removes (Text.of "a") (Text.of "x")
  have set_laws := (sets (Text.of "a") (Text.of "y") (Text.of "3") _ rfl).mpr (.inl (by decide))
  refine ⟨_, removed, rfl, set_laws, done, laws.mpr (.inl ?_)⟩
  rw [unshared]
  · rfl
  · rintro edit member ⟨_, _, _, rfl⟩
    simp [plainEdits, Text.of] at member

/-- An entry that is set in the group without a name shows in the other group, and stays there when
it is removed from it. -/
theorem nameless_entry_shows_through : ∃ after,
    (edited ∅ plainEdits).setText (.text []) (.text (Text.of "k")) (.text (Text.of "v")) =
        (.ok (), after) ∧
      (edited ∅ plainEdits).hasKey (Text.of "a") (Text.of "k") = false ∧
      after.hasKey (Text.of "a") (Text.of "k") = true ∧
      (after.removeEntry (.text (Text.of "a")) (.text (Text.of "k"))).2.hasKey (Text.of "a")
        (Text.of "k") = true ∧
      ¬SetLaws (edited ∅ plainEdits) [] (Text.of "k") (Text.of "v") after := by
  refine ⟨_, rfl, rfl, rfl, rfl, fun laws => ?_⟩
  have same := (laws.others (Text.of "a") (by decide) (Text.of "k") (by decide)).1
  cases same

end KeyFile
end PackageRepos
