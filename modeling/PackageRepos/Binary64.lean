/-!
# Binary floating point

Numbers of 53 significant bits with exponents of 11 bits, computed exactly on natural numbers and
rounded once, to the nearest number and to the even one of two. Nothing here depends on the
machine's floating-point unit.
-/

namespace PackageRepos

/-- A floating-point number of 64 bits. -/
inductive Binary64 where
  /-- The number `mantissa * 2 ^ exponent`, or its opposite. -/
  | finite (negative : Bool) (mantissa : Nat) (exponent : Int)
  | infinite (negative : Bool)
  | undefined
deriving DecidableEq, Repr

namespace Binary64

/-- The integer nearest to a ratio, the even one of two. -/
def roundHalfEven (numerator denominator : Nat) : Nat :=
  let quotient := numerator / denominator
  let remainder := numerator % denominator
  if 2 * remainder < denominator ∨ (2 * remainder = denominator ∧ quotient % 2 = 0) then quotient
  else quotient + 1

/-- The numerator of an integer power, which is one for a negative exponent. -/
def powerTop (base : Nat) (exponent : Int) : Nat := Nat.pow base exponent.toNat

/-- The denominator of an integer power, which is one unless the exponent is negative. -/
def powerBottom (base : Nat) (exponent : Int) : Nat := Nat.pow base (-exponent).toNat

/-- The ratio divided by a power of two. -/
def shifted (numerator denominator : Nat) (exponent : Int) : Nat × Nat :=
  (numerator * powerBottom 2 exponent, denominator * powerTop 2 exponent)

/-- The greatest exponent of two that is not above a positive ratio. -/
def binade (numerator denominator : Nat) : Int :=
  let guess := (numerator.log2 : Int) - denominator.log2
  let (scaledNumerator, scaledDenominator) := shifted numerator denominator guess
  if scaledDenominator ≤ scaledNumerator then guess else guess - 1

/-- The exponent of the unit in the last place of a positive ratio. -/
def unitExponent (numerator denominator : Nat) : Int :=
  max (binade numerator denominator - 52) (-1074)

/-- The number nearest to a ratio, with the given sign. -/
def ofRatio (negative : Bool) (numerator denominator : Nat) : Binary64 :=
  if numerator = 0 then .finite negative 0 0
  else
    let exponent := unitExponent numerator denominator
    let (scaledNumerator, scaledDenominator) := shifted numerator denominator exponent
    let mantissa := roundHalfEven scaledNumerator scaledDenominator
    if 1024 ≤ (mantissa.log2 : Int) + exponent then .infinite negative
    else if mantissa = Nat.pow 2 53 then .finite negative (Nat.pow 2 52) (exponent + 1)
    else .finite negative mantissa exponent

/-- The number nearest to `digits * 10 ^ power`. Powers far outside the range of finite numbers
are decided from their size alone. -/
def ofDecimal (negative : Bool) (digits : Nat) (power : Int) : Binary64 :=
  if digits = 0 then .finite negative 0 0
  else if 310 < power then .infinite negative
  else if power + digits.log2 / 3 < -340 then .finite negative 0 0
  else ofRatio negative (digits * powerTop 10 power) (powerBottom 10 power)

/-- The number nearest to the product with a natural number. -/
def scale (number : Binary64) (factor : Nat) : Binary64 :=
  match number with
  | .finite negative mantissa exponent =>
    ofRatio negative (mantissa * factor * powerTop 2 exponent) (powerBottom 2 exponent)
  | other => other

/-- The number is an infinity. -/
def isInfinite : Binary64 → Bool
  | .infinite _ => true
  | _ => false

/-- The number is less than zero; the negative zero is not. -/
def isNegative : Binary64 → Bool
  | .finite negative mantissa _ => negative && mantissa != 0
  | .infinite negative => negative
  | .undefined => false

/-- The number is zero, of either sign. -/
def isZero : Binary64 → Bool
  | .finite _ mantissa _ => mantissa == 0
  | _ => false

/-- The integer part, without the fraction; infinities and the undefined number have none and give
zero. -/
def truncate : Binary64 → Int
  | .finite negative mantissa exponent =>
    let magnitude : Nat := mantissa * powerTop 2 exponent / powerBottom 2 exponent
    if negative then -(magnitude : Int) else magnitude
  | _ => 0

end Binary64
end PackageRepos
