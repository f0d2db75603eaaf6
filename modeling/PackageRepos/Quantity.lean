import PackageRepos.Numeral
import PackageRepos.Text.Case

/-!
# Quantities with units

A time interval or a bandwidth is written as a numeral and at most one unit letter, of either case.
Integers are exact at any size; a numeral with a point or an exponent is read as a floating-point
number, multiplied by its unit and cut to an integer toward zero.
-/

namespace PackageRepos

/-- The two quantities that options hold. -/
inductive Quantity where
  /-- Seconds, of 64 bits with a sign. -/
  | interval
  /-- Bytes, of 64 bits without a sign. -/
  | bandwidth
deriving DecidableEq, Repr

namespace Quantity

/-- Why a text is not a quantity. -/
inductive Fault where
  | missing
  | notANumber
  | tooBig
  | unknownUnit (unit : Text)
  | negative
  | tooManyDigits (count : Nat)
deriving DecidableEq, Repr

/-- The name of the quantity in messages. -/
def name : Quantity → String
  | interval => "time interval"
  | bandwidth => "bandwidth"

/-- What the quantity is counted in, as messages say it. -/
def target : Quantity → String
  | interval => "seconds"
  | bandwidth => "number"

/-- The multiplier of a lower-case unit letter. -/
def unit? : Quantity → Char → Option Nat
  | interval, 's' => some 1
  | interval, 'm' => some 60
  | interval, 'h' => some (60 * 60)
  | interval, 'd' => some (60 * 60 * 24)
  | bandwidth, 'k' => some 1024
  | bandwidth, 'm' => some (1024 * 1024)
  | bandwidth, 'g' => some (1024 * 1024 * 1024)
  | _, _ => none

/-- The least value: an interval has 63 bits and a sign. -/
def minimum : Quantity → Int
  | interval => -9223372036854775808
  | bandwidth => 0

/-- The greatest value: a bandwidth has 64 bits without a sign. -/
def maximum : Quantity → Int
  | interval => 9223372036854775807
  | bandwidth => 18446744073709551615

/-- The multiplier that the text after the numeral stands for. -/
def factor (quantity : Quantity) (rest : Text) : Except Fault Nat :=
  match rest with
  | [] => .ok 1
  | [letter] =>
    match quantity.unit? (Text.lowerChar letter) with
    | some multiplier => .ok multiplier
    | none => .error (.unknownUnit rest)
  | _ => .error (.unknownUnit rest)

/-- Accepts the values in the quantity's range. A bandwidth below zero is told apart from one that
is too big. -/
def inRange (quantity : Quantity) (value : Int) : Except Fault Int :=
  if quantity.minimum ≤ value ∧ value ≤ quantity.maximum then .ok value else .error .tooBig

/-- The quantity that an integer numeral and the text after it denote. -/
def ofInteger (quantity : Quantity) (numeral : Numeral) (rest : Text) : Except Fault Int := do
  if Numeral.digitLimit < numeral.whole.length then
    throw (.tooManyDigits numeral.whole.length)
  let multiplier ← quantity.factor rest
  let value := numeral.toInt * multiplier
  if quantity = bandwidth ∧ value < 0 then throw .negative
  quantity.inRange value

/-- The quantity that a numeral with a point or an exponent and the text after it denote. -/
def ofFraction (quantity : Quantity) (numeral : Numeral) (rest : Text) : Except Fault Int := do
  let magnitude := numeral.toBinary64
  if magnitude.isInfinite then throw .tooBig
  let multiplier ← quantity.factor rest
  let value := magnitude.scale multiplier
  if value.isInfinite then throw .tooBig
  if quantity = bandwidth ∧ value.isNegative then throw .negative
  quantity.inRange value.truncate

/-- The quantity that a text denotes. -/
def parse (quantity : Quantity) (text : Text) : Except Fault Int :=
  if text.isEmpty then .error .missing
  else
    match Numeral.read? text with
    | none => .error .notANumber
    | some (numeral, rest) =>
      if numeral.isInteger then quantity.ofInteger numeral rest
      else quantity.ofFraction numeral rest

/-- The wording for an integer numeral that is too long to be read. -/
def digitLimitMessage (count : Nat) : Text :=
  let limit := Numeral.digitLimit
  Text.of (s!"Exceeds the limit ({limit} digits) for integer string conversion: " ++
    s!"value has {count} digits; use sys.set_int_max_str_digits() to increase the limit")

/-- The wording of a fault in the given text. -/
def Fault.message (quantity : Quantity) (text : Text) : Fault → Text
  | missing => Text.of s!"No {quantity.name} value specified"
  | notANumber => Text.of s!"Couldn't convert '" ++ text ++ Text.of s!"' to {quantity.target}"
  | tooBig => Text.of s!"Too big {quantity.name} value '" ++ text ++ ['\'']
  | unknownUnit unit => Text.of s!"Unknown {quantity.name} unit '" ++ unit ++ ['\'']
  | negative => Text.of "Bytes value may not be negative '" ++ text ++ ['\'']
  | tooManyDigits count => digitLimitMessage count

end Quantity
end PackageRepos
