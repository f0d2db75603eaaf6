import PackageRepos.Value

/-!
# Ill-typed arguments

What is wrong with an argument whose kind an operation cannot work with. Kinds are given by their
names in messages.
-/

namespace PackageRepos

/-- Why an operation cannot work with its argument. -/
inductive ArgumentFault where
  /-- A group is to be a text. -/
  | groupNotText
  /-- A key is to be a text. -/
  | keyNotText
  /-- A value is to be a text. -/
  | valueNotText
  /-- An item of a list of texts is not a text. -/
  | itemNotText (index : Nat) (kind : String)
  /-- Only a sequence can be joined. -/
  | notJoinable
  /-- The value cannot be the key of a map. -/
  | unkeyable (kind : String)
  /-- The group's name is set apart for the shared entries. -/
  | reservedGroup (group : Text)
  /-- The value has no such member. -/
  | lacks (kind : String) (member : String)
  /-- A quantity is to be a text. -/
  | quantityNotText (kind : String)
  /-- A quantity is given as bytes. -/
  | quantityAsBytes
  /-- The value has no items. -/
  | notIterable (kind : String)
  /-- The value is a file that only takes lines, and gives none. -/
  | notReadable
  /-- The value contains nothing. -/
  | notAContainer (kind : String)
  /-- A path is to be a text. -/
  | notAPath (kind : String)
  /-- A file name suffix is to be a text or a tuple of texts. -/
  | notASuffix (kind : String)
  /-- A tuple of suffixes holds something else. -/
  | suffixItemNotText (kind : String)
  /-- An item of a list of pairs is not a sequence. -/
  | pairNotASequence (index : Nat)
  /-- An item of a list of pairs has another length. -/
  | pairOfLength (index : Nat) (length : Nat)
  /-- A text is indexed by a text. -/
  | textIndexedByText
  /-- A list is indexed by a text. -/
  | listIndexedByText
  /-- The items of the value cannot be set. -/
  | notAssignable (kind : String)
  /-- Values of the kinds cannot be compared with the sign. -/
  | notComparable (sign left right : String)
  /-- The value has no items that could be asked for. -/
  | notIndexed (kind : String)
  /-- A setting for opening files is of the wrong kind. -/
  | openArgument (parameter : String) (isOptional : Bool) (kind : String)
  /-- A text is looked for, but something else is given. -/
  | soughtNotText (kind : String)
  /-- The value, or what it is about to become, holds an integer with too many digits to be written
  down. -/
  | unshowable
deriving DecidableEq, Repr

namespace ArgumentFault

/-- The wording of a fault. -/
def message : ArgumentFault → Text
  | groupNotText => Text.of "section names must be strings"
  | keyNotText => Text.of "option keys must be strings"
  | valueNotText => Text.of "option values must be strings"
  | itemNotText index kind => Text.of s!"sequence item {index}: expected str instance, {kind} found"
  | notJoinable => Text.of "can only join an iterable"
  | unkeyable kind => Text.of s!"unhashable type: '{kind}'"
  | reservedGroup group => Text.of "Invalid section name: " ++ group.quoted
  | lacks kind member => Text.of s!"'{kind}' object has no attribute '{member}'"
  | quantityNotText kind => Text.of s!"expected string or bytes-like object, got '{kind}'"
  | quantityAsBytes => Text.of "cannot use a string pattern on a bytes-like object"
  | notIterable kind => Text.of s!"'{kind}' object is not iterable"
  | notReadable => Text.of "not readable"
  | notAContainer kind => Text.of s!"argument of type '{kind}' is not iterable"
  | notAPath kind => Text.of s!"expected str, bytes or os.PathLike object, not {kind}"
  | notASuffix kind => Text.of s!"endswith first arg must be str or a tuple of str, not {kind}"
  | suffixItemNotText kind => Text.of s!"tuple for endswith must only contain str, not {kind}"
  | pairNotASequence index =>
    Text.of s!"cannot convert dictionary update sequence element #{index} to a sequence"
  | pairOfLength index length =>
    Text.of s!"dictionary update sequence element #{index} has length {length}; 2 is required"
  | textIndexedByText => Text.of "string indices must be integers, not 'str'"
  | listIndexedByText => Text.of "list indices must be integers or slices, not str"
  | notAssignable kind => Text.of s!"'{kind}' object does not support item assignment"
  | notComparable sign left right =>
    Text.of s!"'{sign}' not supported between instances of '{left}' and '{right}'"
  | notIndexed kind => Text.of s!"'{kind}' object is not subscriptable"
  | openArgument parameter isOptional kind =>
    let wanted := if isOptional then "str or None" else "str"
    Text.of s!"open() argument '{parameter}' must be {wanted}, not {kind}"
  | soughtNotText kind => Text.of s!"must be str, not {kind}"
  | unshowable =>
    Text.of (s!"Exceeds the limit ({Numeral.digitLimit} digits) for integer string conversion; " ++
      "use sys.set_int_max_str_digits() to increase the limit")

end ArgumentFault
end PackageRepos
