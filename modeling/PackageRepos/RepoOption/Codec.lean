import PackageRepos.Failure
import PackageRepos.RepoOption.Basic
import PackageRepos.Text.Case

/-!
# Values of options

How the text of an option is read, and which values an option accepts from a caller. What is
accepted is what a file can hold: a text on one line without blanks at its ends, a list of items
without blanks and separators, a number in range.
-/

namespace PackageRepos
namespace OptionKind

/-- The least and the greatest number of 32 bits. -/
def int32Range : Int × Int := (-2147483648, 2147483647)

/-- The words that mean true. -/
def trueWords : List String := ["1", "yes", "true"]

/-- The character separates the items of a list. -/
def isSeparator (char : Char) : Bool := char == ' ' || char == ',' || char == ';'

/-- The items of a list: the pieces between separators, without blanks at their ends, except the
empty ones. -/
def listItems (raw : Text) : List Text :=
  ((raw.splitOnP isSeparator).map Text.strip).filter fun item => !item.isEmpty

/-- The truth value that a text denotes, in any case. Every text denotes one. -/
def flagOf (raw : Text) : Bool := trueWords.any fun word => Text.of word == Text.lower raw

/-- What an integer option makes of a text. -/
def decodeInt32 (key raw : Text) : Except Failure Value :=
  match Numeral.integer? raw with
  | none => .error (.error (.invalid key (.notAnInteger key raw)))
  | some numeral =>
    if Numeral.digitLimit < numeral.whole.length then
      .error (.tooManyDigits numeral.whole.length)
    else
      let value := numeral.toInt
      if int32Range.1 ≤ value ∧ value ≤ int32Range.2 then .ok (.int value)
      else .error (.error (.invalid key (.beyondInt32 key raw)))

/-- What an option that holds a quantity makes of a text. -/
def decodeQuantity (quantity : Quantity) (key raw : Text) : Except Failure Value :=
  match quantity.parse raw with
  | .ok value => .ok (.int value)
  | .error fault =>
    match Failure.ofQuantity quantity raw fault with
    | .error error =>
      .error (.error (.invalid key error.problem (some (.error error.category))))
    | other => .error other

/-- The value that a stored text denotes. -/
def decode (kind : OptionKind) (key raw : Text) : Except Failure Value :=
  match kind with
  | id | text => .ok (.text raw)
  | list => .ok (.list ((listItems raw).map .text))
  | bool => .ok (.bool (flagOf raw))
  | int32 => decodeInt32 key raw
  | interval => decodeQuantity .interval key raw
  | bandwidth => decodeQuantity .bandwidth key raw
  | ipResolve =>
    match AddressFamily.ofWord? (Text.lower raw) with
    | some family => .ok (.address family)
    | none => .error (.error (.invalid key (.unknownFamily raw) (some .noSuchMember)))

/-- What a text option makes of a text handed over. -/
def checkText (key value : Text) : Except Problem Value :=
  if value.any Text.isLineBreak then .error (.lineBreak key)
  else if value.contains '\t' || value != Text.strip value then .error (.edgeBlank key)
  else .ok (.text value)

/-- The item can be told apart from its neighbours in a list. -/
def isItem (item : Text) : Bool :=
  !item.isEmpty && !(item.any fun char => Text.isBlank char || isSeparator char)

/-- What a list option makes of the items handed over. -/
def checkItems (key : Text) : List Value → Except Problem (List Value)
  | [] => .ok []
  | .text item :: rest =>
    if isItem item then (checkItems key rest).map (.text item :: ·)
    else .error (.badItem key item)
  | other :: _ => .error (.wrongKind key "a list of strings" other.kindName)

/-- The numbers that a number option accepts. -/
def numberRange : OptionKind → Int × Int
  | interval => (Quantity.interval.minimum, Quantity.interval.maximum)
  | bandwidth => (Quantity.bandwidth.minimum, Quantity.bandwidth.maximum)
  | _ => int32Range

/-- What a number option makes of a number handed over. -/
def checkNumber (kind : OptionKind) (key : Text) (value : Int) : Except Problem Value :=
  let (minimum, maximum) := kind.numberRange
  if minimum ≤ value ∧ value ≤ maximum then .ok (.int value)
  else .error (.outOfRange key value minimum maximum)

/-- The value that an option keeps for a value handed over, or the problem with it. The read-only
kind has no values to keep. -/
def check (kind : OptionKind) (key : Text) (value : Value) : Except Problem Value :=
  match kind, value with
  | id, _ => .error .readOnly
  | text, .text value => checkText key value
  | text, other => .error (.wrongKind key "a string" other.kindName)
  | list, .list items | list, .tuple items => (checkItems key items).map .list
  | list, other => .error (.wrongKind key "a list of strings" other.kindName)
  | bool, .bool flag => .ok (.bool flag)
  | bool, other => .error (.wrongKind key "a bool" other.kindName)
  | int32, .int value | interval, .int value | bandwidth, .int value => kind.checkNumber key value
  | int32, other | interval, other | bandwidth, other =>
    .error (.wrongKind key "an int" other.kindName)
  | ipResolve, .address family => .ok (.address family)
  | ipResolve, other => .error (.wrongKind key "an IpResolve" other.kindName)

/-- The value removes the option: it is absent, or an empty sequence for a list. -/
def clears (kind : OptionKind) (value : Value) : Bool :=
  match kind, value with
  | _, .absent => true
  | list, .list [] | list, .tuple [] => true
  | _, _ => false

end OptionKind

namespace OptionSpec

/-- The value that a stored text denotes. -/
def decode (spec : OptionSpec) (raw : Text) : Except Failure Value := spec.kind.decode spec.key raw

/-- The value that the option keeps for a value handed over. A problem that cannot be put into
words gives way to the failure to do so. -/
def validate (spec : OptionSpec) (value : Value) : Except Failure Value :=
  match spec.kind.check spec.key value with
  | .ok kept => .ok kept
  | .error .readOnly => .error (.error .readOnly)
  | .error problem =>
    if problem.isShowable then .error (.error (.rejected spec.key problem))
    else .error (.argument .unshowable)

end OptionSpec
end PackageRepos
