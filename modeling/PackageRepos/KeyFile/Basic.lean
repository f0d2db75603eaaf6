import PackageRepos.OrderedMap
import PackageRepos.Value

/-!
# Key files

A key file holds groups of entries, both in the order in which they were declared, and the comments
above them. Entries may also be shared: every group shows a shared entry that it does not set
itself. No file can declare shared entries; they come from edits of the group without a name.
-/

namespace PackageRepos

/-- What a block of comments stands above: a group's header, or one of its keys. -/
structure Anchor where
  group : Text
  key : Option Text := none
deriving DecidableEq, Repr

/-- Groups of entries with the comments above them. -/
structure KeyFile where
  /-- The entries that each group sets itself. -/
  groups : OrderedMap Text (OrderedMap Text Text) := ∅
  /-- The entries that every group shows. -/
  shared : OrderedMap Text Text := ∅
  /-- The comment lines above headers and keys. -/
  comments : OrderedMap Anchor (List Text) := ∅
  /-- The comment lines after the last entry. -/
  trailing : List Text := []
deriving DecidableEq, Repr

namespace KeyFile

instance : EmptyCollection KeyFile := ⟨{}⟩

instance : Inhabited KeyFile := ⟨∅⟩

/-- Why a key has no value to show. -/
inductive LookupFault where
  | noGroup (group : Value)
  | noKey (key : Text) (group : Value)
deriving Repr

/-- The wording of a fault. -/
def LookupFault.message : LookupFault → Text
  | noGroup group => Text.of "No section: " ++ group.display
  | noKey key group =>
    Text.of "No option " ++ key.quoted ++ Text.of " in section: " ++ group.display

/-- The name under which the shared entries themselves are reached. -/
def sharedGroup : Text := ['\n']

/-- The group's entries are the shared ones: it has no name, or the name of the shared entries. -/
def namesShared (group : Text) : Bool := group.isEmpty || group == sharedGroup

/-- The names of the groups, in order. -/
def groupNames (keyFile : KeyFile) : List Text := keyFile.groups.keys

/-- The group is declared. -/
def hasGroup (keyFile : KeyFile) (group : Text) : Bool := keyFile.groups.contains group

/-- The value that a group shows for a key: its own, or else the shared one. -/
def value? (keyFile : KeyFile) (group key : Text) : Option Text :=
  ((keyFile.groups.get? group).bind fun entries => entries.get? key).or (keyFile.shared.get? key)

/-- The group is reached by this name and shows the key. -/
def hasKey (keyFile : KeyFile) (group key : Text) : Bool :=
  if namesShared group then keyFile.shared.contains key
  else keyFile.hasGroup group && (keyFile.value? group key).isSome

/-- The value that a group shows for a key, or what is missing. -/
def lookup (keyFile : KeyFile) (group key : Text) : Except LookupFault Text :=
  if keyFile.hasGroup group || group == sharedGroup then
    match keyFile.value? group key with
    | some value => .ok value
    | none => .error (.noKey key (.text group))
  else .error (.noGroup (.text group))

/-- The keys that a group shows: its own in order, then the shared ones it does not set. -/
def keysOf (keyFile : KeyFile) (group : Text) : List Text :=
  let own := ((keyFile.groups.get? group).getD ∅).keys
  own ++ keyFile.shared.keys.filter fun key => !own.contains key

/-- Declares a group without entries, after the others, unless it is declared. -/
def declare (keyFile : KeyFile) (group : Text) : KeyFile :=
  if keyFile.hasGroup group then keyFile
  else { keyFile with groups := keyFile.groups.insert group ∅ }

/-- Sets an entry of a declared group. -/
def put (keyFile : KeyFile) (group key value : Text) : KeyFile :=
  if namesShared group then { keyFile with shared := keyFile.shared.insert key value }
  else
    let entries := (keyFile.groups.get? group).getD ∅
    { keyFile with groups := keyFile.groups.insert group (entries.insert key value) }

/-- Removes an entry of a declared group together with its comments. Whatever is missing stays
missing. -/
def remove (keyFile : KeyFile) (group key : Text) : KeyFile :=
  if keyFile.hasGroup group then
    let comments := keyFile.comments.erase { group, key := some key }
    if namesShared group then { keyFile with shared := keyFile.shared.erase key, comments }
    else
      let entries := (keyFile.groups.get? group).getD ∅
      { keyFile with groups := keyFile.groups.insert group (entries.erase key), comments }
  else keyFile

/-- The comment lines above an anchor. -/
def commentsAt (keyFile : KeyFile) (anchor : Anchor) : List Text :=
  (keyFile.comments.get? anchor).getD []

/-- The number of comment lines. -/
def commentCount (keyFile : KeyFile) : Nat :=
  (keyFile.comments.toList.flatMap fun block => block.2).length + keyFile.trailing.length

end KeyFile
end PackageRepos
