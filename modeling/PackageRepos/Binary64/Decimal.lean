import PackageRepos.Binary64
import PackageRepos.Text.Basic

/-!
# Decimals of a chosen length

A number is written with a given number of decimal places, or with a given number of digits after
its first, or in whichever of the two is shorter. Its digits are those of the nearest decimal of
that length, the even one of two.
-/

namespace PackageRepos
namespace Binary64

/-- The greatest power of ten that is not above a positive ratio. -/
def decade (numerator denominator : Nat) : Int :=
  let guess : Int := (Nat.toDigits 10 numerator).length - (Nat.toDigits 10 denominator).length
  if denominator * powerTop 10 guess ≤ numerator * powerBottom 10 guess then guess else guess - 1

/-- How many times a power of ten fits a ratio, to the nearest integer. -/
def inUnitsOf (power : Int) (numerator denominator : Nat) : Nat :=
  roundHalfEven (numerator * powerBottom 10 power) (denominator * powerTop 10 power)

/-- The first digits of a ratio, as many as asked for, and the power of ten of the first one. -/
def significant (count numerator denominator : Nat) : Nat × Int :=
  if numerator = 0 then (0, 0)
  else
    let power := decade numerator denominator
    let digits := inUnitsOf (power + 1 - count) numerator denominator
    if digits = Nat.pow 10 count then (Nat.pow 10 (count - 1), power + 1) else (digits, power)

/-- The digits of a number, with zeros before them up to the given count. -/
def digitsOf (count number : Nat) : Text := Text.zeroFilled count (Nat.toDigits 10 number)

/-- A power of ten after a number: its sign, and two digits or more. -/
def exponentMark (power : Int) : Text :=
  'e' :: (if power < 0 then '-' else '+') :: digitsOf 2 power.natAbs

/-- The digits without the zeros at their end. -/
def withoutFinalZeros (digits : Text) : Text := (digits.reverse.dropWhile (· == '0')).reverse

/-- Ways to write a number in decimal digits. -/
inductive DecimalStyle where
  /-- With the given number of decimal places. -/
  | fixed
  /-- With one digit before the point, the given number of digits after it, and a power of ten. -/
  | scientific
  /-- With the given number of digits, and a power of ten if the number is small or large. -/
  | general
deriving DecidableEq, Repr

/-- How a number is written in decimal digits. -/
structure DecimalForm where
  style : DecimalStyle
  /-- The number of digits that the style asks for. -/
  count : Nat := 6
  /-- A point is written even before no digits, and zeros at the end are kept. -/
  isMarked : Bool := false
  /-- A number written without a power of ten has a digit after its point. -/
  hasFraction : Bool := false

namespace DecimalForm

/-- Digits around a point, which is left out before no digits. -/
def around (form : DecimalForm) (whole fraction : Text) : Text :=
  if fraction.isEmpty && !form.isMarked then whole else whole ++ '.' :: fraction

/-- The digits after the point of a number whose length may vary. -/
def trimmed (form : DecimalForm) (fraction : Text) : Text :=
  if form.isMarked then fraction else withoutFinalZeros fraction

/-- A ratio with the given number of decimal places. -/
def writeFixed (form : DecimalForm) (numerator denominator : Nat) : Text :=
  let digits := digitsOf (form.count + 1) (inUnitsOf (-form.count) numerator denominator)
  let (whole, fraction) := digits.splitAt (digits.length - form.count)
  form.around whole fraction

/-- A ratio with the given number of digits after its first. -/
def writeScientific (form : DecimalForm) (numerator denominator : Nat) : Text :=
  let (number, power) := significant (form.count + 1) numerator denominator
  let (whole, fraction) := (digitsOf (form.count + 1) number).splitAt 1
  form.around whole fraction ++ exponentMark power

/-- A ratio with the given number of digits, of which there is at least one. -/
def writeGeneral (form : DecimalForm) (numerator denominator : Nat) : Text :=
  let count := max form.count 1
  let (number, power) := significant count numerator denominator
  let digits := digitsOf count number
  let limit : Int := if form.hasFraction then count - 1 else count
  if power < -4 ∨ limit ≤ power then
    form.around (digits.take 1) (form.trimmed (digits.drop 1)) ++ exponentMark power
  else
    let (whole, fraction) :=
      if power < 0 then (['0'], List.replicate (-power - 1).toNat '0' ++ digits)
      else digits.splitAt (power.toNat + 1)
    let shown := form.trimmed fraction
    form.around whole (if shown.isEmpty && form.hasFraction then ['0'] else shown)

/-- The magnitude of a number in the form. -/
def write (form : DecimalForm) : Binary64 → Text
  | .finite _ mantissa exponent =>
    let numerator := mantissa * powerTop 2 exponent
    let denominator := powerBottom 2 exponent
    match form.style with
    | .fixed => form.writeFixed numerator denominator
    | .scientific => form.writeScientific numerator denominator
    | .general => form.writeGeneral numerator denominator
  | .infinite _ => Text.of "inf"
  | .undefined => Text.of "nan"

end DecimalForm
end Binary64
end PackageRepos
