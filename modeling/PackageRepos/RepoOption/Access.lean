import PackageRepos.KeyFile.Edit
import PackageRepos.RepoOption.Codec

/-!
# Options in a key file

Reading an option from a group of a key file, and writing it there. The identifier is the name of
the group: it is read without a look at the key file, and never written.
-/

namespace PackageRepos
namespace OptionSpec

/-- The value of the option in a group. -/
def read (spec : OptionSpec) (keyFile : KeyFile) (group : Value) : Except Failure Value :=
  if spec.kind = .id then .ok group
  else
    match keyFile.askValue group (.text spec.key) with
    | .error fault => .error (.argument fault)
    | .ok (.error fault) => .error (.lookup fault)
    | .ok (.ok raw) => spec.decode raw

/-- The outcome of a write: whether it succeeded, and the key file it leaves. -/
abbrev Written := Except Failure Unit × KeyFile

/-- A request's outcome as the outcome of a write. -/
def ofEdited (edited : KeyFile.Edited) : Written := (edited.1.mapError .argument, edited.2)

/-- Stores a value as it is, without a check. -/
def store (spec : OptionSpec) (keyFile : KeyFile) (group value : Value) : Written :=
  let key := Value.text spec.key
  match spec.kind with
  | .id => (.error (.error .readOnly), keyFile)
  | .text => ofEdited (keyFile.setText group key value)
  | .list => ofEdited (keyFile.setList group key value)
  | .bool => ofEdited (keyFile.setFlag group key value)
  | .int32 | .interval | .bandwidth => ofEdited (keyFile.setNumber group key value)
  | .ipResolve =>
    match value with
    | .address family => ofEdited (keyFile.setText group key (.text (Text.of family.word)))
    | other => (.error (.argument (.lacks other.kindName "value")), keyFile)

/-- Checks and stores a value, or removes the option when the value is empty. -/
def write (spec : OptionSpec) (keyFile : KeyFile) (group value : Value) : Written :=
  if spec.kind = .id then (.error (.error .readOnly), keyFile)
  else if spec.kind.clears value then ofEdited (keyFile.removeEntry group (.text spec.key))
  else
    match spec.validate value with
    | .ok kept => spec.store keyFile group kept
    | .error failure => (.error failure, keyFile)

end OptionSpec

namespace OptionArgument

/-- What the argument is as an option, for an operation that takes the named member of it. -/
def spec (argument : OptionArgument) (member : String) : Except Failure OptionSpec :=
  match argument with
  | registered option => .ok option.spec
  | unregistered spec => .ok spec
  | misnamed _ _ => .error (.argument .keyNotText)
  | value content => .error (.argument (.lacks content.kindName member))

/-- The registered option with the given key. -/
def ofKey (key : Text) : Except Failure OptionArgument :=
  match RepoOption.ofKey? key with
  | some option => .ok (registered option)
  | none => .error (.error (.rejected key (.unknownKey key)))

end OptionArgument
end PackageRepos
