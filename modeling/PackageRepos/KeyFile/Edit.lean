import PackageRepos.ArgumentFault
import PackageRepos.KeyFile.Basic

/-!
# Requests to a key file

Callers may hand over a group, key or value of any kind. A request says what is wrong with them, in
a fixed order: the group first, which is declared before the key and the value are looked at. An
edit therefore yields a key file even when it fails. A key that is looked up is taken as its plain
text.
-/

namespace PackageRepos
namespace KeyFile

/-- The outcome of an edit: whether it succeeded, and the key file it leaves. -/
abbrev Edited := Except ArgumentFault Unit × KeyFile

/-- Refuses a group that cannot be the key of a map. -/
def checkGroup (group : Value) : Except ArgumentFault Unit :=
  match group.unkeyable? with
  | some kind => .error (.unkeyable kind)
  | none => .ok ()

/-- Is the group declared? -/
def askGroup (keyFile : KeyFile) (group : Value) : Except ArgumentFault Bool :=
  match group with
  | .text name => .ok (keyFile.hasGroup name)
  | other => (checkGroup other).map fun _ => false

/-- Does the group show the key? A group that does not count as true shows the shared entries. -/
def askKey (keyFile : KeyFile) (group key : Value) : Except ArgumentFault Bool :=
  match group with
  | .text name => .ok (keyFile.hasKey name key.plain)
  | other =>
    if other.isTrue then (checkGroup other).map fun _ => false
    else .ok (keyFile.shared.contains key.plain)

/-- The value that the group shows for the key. -/
def askValue (keyFile : KeyFile) (group key : Value) :
    Except ArgumentFault (Except LookupFault Text) :=
  match group with
  | .text name => .ok (keyFile.lookup name key.plain)
  | other => (checkGroup other).map fun _ => .error (.noGroup other)

/-- Sets an entry, declaring its group first. -/
def setText (keyFile : KeyFile) (group key value : Value) : Edited :=
  match group with
  | .text name =>
    if name = sharedGroup then (.error (.reservedGroup name), keyFile)
    else
      let declared := keyFile.declare name
      match key, value with
      | .text key, .text value => (.ok (), declared.put name key value)
      | .text _, _ => (.error .valueNotText, declared)
      | _, _ => (.error .keyNotText, declared)
  | other =>
    match checkGroup other with
    | .error fault => (.error fault, keyFile)
    | .ok () => (.error .groupNotText, keyFile)

/-- The texts that are joined into a list value, or what keeps them from being joined. -/
def listTexts (value : Value) : Except ArgumentFault (List Text) :=
  match value with
  | .list items | .tuple items => texts 0 items
  | .text text => .ok (text.map fun char => [char])
  | .mapping entries => .ok (entries.map Prod.fst)
  | .bytes [] => .ok []
  | .bytes _ => .error (.itemNotText 0 "int")
  | _ => .error .notJoinable
where
  /-- The items as texts, the first of which has the given index. -/
  texts (index : Nat) : List Value → Except ArgumentFault (List Text)
    | [] => .ok []
    | .text text :: rest => (texts (index + 1) rest).map (text :: ·)
    | item :: _ => .error (.itemNotText index item.kindName)

/-- The character between the items of a list value. -/
def listSeparator : Char := ';'

/-- Sets an entry to the items of a list, separated by semicolons. -/
def setList (keyFile : KeyFile) (group key value : Value) : Edited :=
  match listTexts value with
  | .ok texts => keyFile.setText group key (.text (Text.join [listSeparator] texts))
  | .error fault => (.error fault, keyFile)

/-- The word for a truth value. -/
def flagWord (flag : Bool) : Text := if flag then Text.of "true" else Text.of "false"

/-- Sets an entry to `true` or `false`. -/
def setFlag (keyFile : KeyFile) (group key value : Value) : Edited :=
  keyFile.setText group key (.text (flagWord value.isTrue))

/-- Sets an entry to a number. -/
def setNumber (keyFile : KeyFile) (group key value : Value) : Edited :=
  if value.isShowable then keyFile.setText group key (.text value.plain)
  else (.error .unshowable, keyFile)

/-- Removes the entry whose key is the plain text of a value that is no text. Where no key at all is
given the comments above the header go with it; other values anchor no comments. -/
def removePlain (keyFile : KeyFile) (group : Text) (key : Value) : KeyFile :=
  let comments := match key with
    | .absent => keyFile.comments.erase { group }
    | _ => keyFile.comments
  { keyFile.remove group key.plain with comments }

/-- Removes an entry together with its comments. Where there are no comments at all, none are looked
for. -/
def removeEntry (keyFile : KeyFile) (group key : Value) : Edited :=
  match group with
  | .text name =>
    if keyFile.hasGroup name then
      match key with
      | .text key => (.ok (), keyFile.remove name key)
      | other =>
        let outcome := if keyFile.comments.keys.isEmpty then .ok () else checkGroup other
        (outcome, keyFile.removePlain name other)
    else (.ok (), keyFile)
  | other => (checkGroup other, keyFile)

end KeyFile
end PackageRepos
