import PackageRepos.Binary64
import PackageRepos.Text.Blank

/-!
# Decimal numerals

The written form of a number: blanks, a sign, digits with an optional point, and an optional
decimal exponent, all ASCII. Reading takes the longest numeral at the start of a text and leaves
the rest.
-/

namespace PackageRepos

/-- A decimal numeral as it is written. -/
structure Numeral where
  negative : Bool
  /-- Digits before the point. -/
  whole : Text
  /-- Digits after the point; absent when there is no point. -/
  fraction : Option Text := none
  /-- Sign and digits of the exponent. -/
  exponent : Option (Bool × Text) := none
deriving DecidableEq, Repr

namespace Numeral

/-- The most digits that an integer numeral may have, leading zeros included. -/
def digitLimit : Nat := 4300

/-- The integer has no more digits than a numeral may have. -/
def canWrite (value : Int) : Bool := decide (value.natAbs < Nat.pow 10 digitLimit)

/-- The natural number that a run of digits denotes. -/
def natOfDigits (digits : Text) : Nat := Nat.ofDigitChars 10 digits 0

/-- The integer with the given sign and magnitude. -/
def signed (negative : Bool) (magnitude : Nat) : Int :=
  if negative then -(magnitude : Int) else magnitude

/-- Takes a sign, if there is one; the first result says whether it is a minus. -/
def readSign : Text → Bool × Text
  | '-' :: rest => (true, rest)
  | '+' :: rest => (false, rest)
  | rest => (false, rest)

/-- Takes a run of digits. -/
def readDigits (text : Text) : Text × Text :=
  (text.takeWhile Char.isDigit, text.dropWhile Char.isDigit)

/-- Takes the digits around an optional point. Either side of the point may lack digits, not
both. -/
def readDecimal? (negative : Bool) (text : Text) : Option (Numeral × Text) :=
  let (whole, afterWhole) := readDigits text
  match afterWhole with
  | '.' :: afterPoint =>
    let (fraction, rest) := readDigits afterPoint
    if !whole.isEmpty || !fraction.isEmpty then
      some ({ negative, whole, fraction := some fraction }, rest)
    else none
  | _ => if whole.isEmpty then none else some ({ negative, whole }, afterWhole)

/-- Takes an exponent, if a complete one follows. -/
def readExponent (numeral : Numeral) (text : Text) : Numeral × Text :=
  match text with
  | mark :: afterMark =>
    if mark == 'e' || mark == 'E' then
      let (negative, afterSign) := readSign afterMark
      let (digits, rest) := readDigits afterSign
      if digits.isEmpty then (numeral, text)
      else ({ numeral with exponent := some (negative, digits) }, rest)
    else (numeral, text)
  | [] => (numeral, text)

/-- Takes the longest numeral at the start of a text, after blanks. -/
def read? (text : Text) : Option (Numeral × Text) :=
  let (negative, afterSign) := readSign (text.dropWhile Text.isAsciiBlank)
  (readDecimal? negative afterSign).map fun (numeral, rest) => readExponent numeral rest

/-- The numeral has neither a point nor an exponent. -/
def isInteger (numeral : Numeral) : Bool := numeral.fraction.isNone && numeral.exponent.isNone

/-- The value of an integer numeral. -/
def toInt (numeral : Numeral) : Int := signed numeral.negative (natOfDigits numeral.whole)

/-- All digits of the number, without point and exponent. -/
def significand (numeral : Numeral) : Nat :=
  natOfDigits (numeral.whole ++ numeral.fraction.getD [])

/-- The power of ten that the significand is to be multiplied by. -/
def power (numeral : Numeral) : Int :=
  let shift := match numeral.exponent with
    | some (negative, digits) => signed negative (natOfDigits digits)
    | none => 0
  shift - (numeral.fraction.getD []).length

/-- The floating-point number nearest to the value. -/
def toBinary64 (numeral : Numeral) : Binary64 :=
  .ofDecimal numeral.negative numeral.significand numeral.power

/-- The integer numeral that fills the whole text, apart from blanks around it. -/
def integer? (text : Text) : Option Numeral :=
  match read? text with
  | some (numeral, rest) =>
    if numeral.isInteger && rest.all Text.isAsciiBlank then some numeral else none
  | none => none

end Numeral
end PackageRepos
