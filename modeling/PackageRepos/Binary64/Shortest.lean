import PackageRepos.Binary64.Decimal

/-!
# The shortest decimal that reads back

A floating-point number is shown with the fewest digits that are read back as the same number, and
among those with the digits nearest to it. At every length only the two neighbours on the decimal
grid can qualify, so both are tried, shortest grid first.
-/

namespace PackageRepos
namespace Binary64

/-- The multiple of a power of ten next to a ratio that reads back as the number: the nearer of the
multiples below and above, or the one of them that qualifies. -/
def onGrid? (number : Binary64) (numerator denominator : Nat) (power : Int) : Option Nat :=
  let top := numerator * powerBottom 10 power
  let bottom := denominator * powerTop 10 power
  let below := top / bottom
  let near := roundHalfEven top bottom
  let far := if near = below then below + 1 else below
  if ofDecimal false near power = number then some near
  else if ofDecimal false far power = number then some far
  else none

/-- The shortest digits and their power of ten, tried from the given number of digits on. -/
def digitsFrom (number : Binary64) (numerator denominator : Nat) : Nat → Nat → Nat × Int
  | 0, count =>
    let power := decade numerator denominator + 1 - count
    (inUnitsOf power numerator denominator, power)
  | fuel + 1, count =>
    let power := decade numerator denominator + 1 - count
    match onGrid? number numerator denominator power with
    | some digits => (digits, power)
    | none => digitsFrom number numerator denominator fuel (count + 1)

/-- The shortest digits of a positive number and the power of ten they are multiplied by. Seventeen
digits always suffice. -/
def shortest (mantissa : Nat) (exponent : Int) : Nat × Int :=
  let numerator := mantissa * powerTop 2 exponent
  let denominator := powerBottom 2 exponent
  digitsFrom (ofRatio false numerator denominator) numerator denominator 16 1

/-- Writes digits with the point after the given number of them. -/
def positional (digits : Text) (point : Int) : Text :=
  if point ≤ 0 then '0' :: '.' :: List.replicate (-point).toNat '0' ++ digits
  else if digits.length ≤ point.toNat then
    digits ++ List.replicate (point.toNat - digits.length) '0' ++ ['.', '0']
  else digits.take point.toNat ++ '.' :: digits.drop point.toNat

/-- Writes digits with a point after the first and the power of ten of the first. -/
def scientific (digits : Text) (exponent : Int) : Text :=
  match digits with
  | first :: [] => first :: exponentMark exponent
  | first :: rest => first :: '.' :: rest ++ exponentMark exponent
  | [] => []

/-- The number as messages show it: positional from `0.0001` up to below `10 ^ 16`, and with an
exponent outside that range. -/
def display : Binary64 → Text
  | finite negative mantissa exponent =>
    let magnitude :=
      if mantissa = 0 then ['0', '.', '0']
      else
        let (number, power) := shortest mantissa exponent
        let digits := withoutFinalZeros (Nat.toDigits 10 number)
        let point := (Nat.toDigits 10 number).length + power
        if -4 < point ∧ point ≤ 16 then positional digits point
        else scientific digits (point - 1)
    if negative then '-' :: magnitude else magnitude
  | infinite negative => if negative then Text.of "-inf" else Text.of "inf"
  | undefined => Text.of "nan"

end Binary64
end PackageRepos
