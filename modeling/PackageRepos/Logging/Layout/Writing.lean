import PackageRepos.Binary64.Decimal
import PackageRepos.Value

/-!
# Writing the fields of a line

The forms that a field takes in a line: padded to a width, as a numeral in some base, or in
decimals.
-/

namespace PackageRepos
namespace Logging
namespace Writing

/-- The most that a line may be widened to. -/
def widthLimit : Nat := 1000000

/-- How a field is fitted into its width. -/
inductive Alignment where
  | left
  | right
  | center
  /-- Between the sign of a number and its digits. -/
  | afterSign
deriving DecidableEq, Repr

/-- A field fitted into a width. The sign is apart from the rest of it. -/
def pad (alignment : Alignment) (fill : Char) (width : Nat) (sign body : Text) : Text :=
  let lacking := width - (sign.length + body.length)
  let filling := fun count => List.replicate count fill
  match alignment with
  | .left => sign ++ body ++ filling lacking
  | .right => filling lacking ++ sign ++ body
  | .center => filling (lacking / 2) ++ sign ++ body ++ filling (lacking - lacking / 2)
  | .afterSign => sign ++ filling lacking ++ body

/-- The sign of a number: a minus, or what the flag for other numbers asks for. -/
def sign (isNegative : Bool) (flag : Option Char) : Text :=
  if isNegative then ['-']
  else
    match flag with
    | some '+' => ['+']
    | some ' ' => [' ']
    | _ => []

/-- Digits with a separator between groups of the given size, counted from the last digit. -/
def grouped (separator : Char) (size : Nat) (digits : Text) : Text :=
  (digits.reverse.zipIdx.flatMap fun (digit, index) =>
    if index != 0 && index % size == 0 then [separator, digit] else [digit]).reverse

/-- The least number of digits that fill a width when they stand in groups of the given size. -/
def digitsToFill (size width : Nat) : Nat :=
  width / (size + 1) * size + max 1 (width % (size + 1))

/-- The way of writing decimals that a letter asks for. -/
def decimalStyle? : Char → Option Binary64.DecimalStyle
  | 'e' | 'E' => some .scientific
  | 'f' | 'F' => some .fixed
  | 'g' | 'G' => some .general
  | _ => none

/-- The magnitude of a number in the decimals that a letter asks for; a capital letter gives capital
letters. -/
def real? (letter : Char) (precision : Option Nat) (isMarked : Bool) (number : Binary64) :
    Option Text :=
  (decimalStyle? letter).map fun style =>
    let form : Binary64.DecimalForm := { style, count := precision.getD 6, isMarked }
    let digits := form.write number
    if letter.isUpper then digits.map Char.toUpper else digits

/-- The digits of a number in the base that a letter names, which is ten for most letters. -/
def digitsFor (letter : Char) (magnitude : Nat) : Text :=
  match letter with
  | 'b' => Nat.toDigits 2 magnitude
  | 'o' => Nat.toDigits 8 magnitude
  | 'x' => Nat.toDigits 16 magnitude
  | 'X' => (Nat.toDigits 16 magnitude).map Char.toUpper
  | _ => Nat.toDigits 10 magnitude

/-- The prefix that shows the base of a numeral. -/
def baseMark (letter : Char) : Text := ['0', letter]

/-- The display of a value with escapes for all characters that are not ASCII. -/
def asciiDisplay (value : Value) : Text :=
  value.display.flatMap fun char =>
    let code := char.toNat
    if code < 0x80 then [char]
    else if code < 0x100 then '\\' :: 'x' :: Text.hexadecimal 2 code
    else if code < 0x10000 then '\\' :: 'u' :: Text.hexadecimal 4 code
    else '\\' :: 'U' :: Text.hexadecimal 8 code

/-- The number that a field is, if it is one. -/
def number? : Value → Option Binary64
  | .int value => some (.ofDecimal (value < 0) value.natAbs 0)
  | .float value => some value
  | _ => none

end Writing
end Logging
end PackageRepos
