import PackageRepos.Logging.Layout.Fields
import PackageRepos.Logging.Layout.Writing
import PackageRepos.Numeral
import PackageRepos.Text.Digit
import PackageRepos.Text.Word

/-!
# Layouts with percent signs

A field is a percent sign, a name in parentheses, flags, an optional width, an optional precision
and the letter of a conversion. A text without any field is no layout. Settings are checked for
fields only; what else keeps a line from being made shows when it is made.
-/

namespace PackageRepos
namespace Logging
namespace Percent

/-! ## The check -/

/-- The character is a flag of a field. -/
def isFlag (char : Char) : Bool := (Text.of "#0+ -").contains char

/-- The letters of conversions, and what counts as one of them when case does not matter. -/
def isConversion (char : Char) : Bool :=
  (Text.of "diouxefgcrsa%").contains char.toLower || [0x130, 0x131, 0x17f].contains char.toNat

/-- Takes a number, or the star that stands for one. -/
def dropNumber : Text → Text
  | '*' :: rest => rest
  | rest => rest.dropWhile Text.isDigitChar

/-- Takes a point and the number after it, if both are there. -/
def dropPrecision (text : Text) : Text :=
  match text with
  | '.' :: rest =>
    let after := dropNumber rest
    if after.length < rest.length then after else text
  | _ => text

/-- The text begins with what follows the name of a field. -/
def endsField (text : Text) : Bool :=
  ((dropPrecision (dropNumber (text.dropWhile isFlag))).head?.map isConversion).getD false

/-- The text begins with a field. -/
def startsField : Text → Bool
  | '%' :: '(' :: rest =>
    match rest.span Text.isWordChar with
    | (_ :: _, ')' :: after) => endsField after
    | _ => false
  | _ => false

/-- The text has a field. -/
def isValid : Text → Bool
  | [] => false
  | char :: rest => startsField (char :: rest) || isValid rest

/-! ## Making a line -/

/-- A field as it is to be written. -/
structure Conversion where
  /-- The name of the field; without one, the fields are taken as a whole. -/
  key : Option Text
  flags : Text
  width : Nat
  precision : Option Nat
  letter : Char

namespace Conversion

/-- Takes the name of a field up to the parenthesis that closes it. -/
def readKey (depth : Nat) : Text → Option (Text × Text)
  | [] => none
  | ')' :: rest =>
    if depth = 0 then some ([], rest)
    else (readKey (depth - 1) rest).map fun (key, after) => (')' :: key, after)
  | '(' :: rest => (readKey (depth + 1) rest).map fun (key, after) => ('(' :: key, after)
  | char :: rest => (readKey depth rest).map fun (key, after) => (char :: key, after)

/-- Takes the name of a field, if there is one. -/
def readName : Text → Option (Option Text × Text)
  | '(' :: rest => (readKey 0 rest).map fun (key, after) => (some key, after)
  | rest => some (none, rest)

/-- Takes a number, which may lack all digits. -/
def readNumber (text : Text) : Option (Nat × Text) :=
  let (digits, rest) := text.span Char.isDigit
  let number := Numeral.natOfDigits digits
  if Writing.widthLimit < number then none else some (number, rest)

/-- Takes a precision, if there is one. -/
def readPrecision : Text → Option (Option Nat × Text)
  | '.' :: rest => (readNumber rest).map fun (number, after) => (some number, after)
  | rest => some (none, rest)

/-- Takes the letter that tells the size of a number, which does not matter. -/
def dropSize : Text → Text
  | 'h' :: rest | 'l' :: rest | 'L' :: rest => rest
  | rest => rest

/-- Takes a field after its percent sign. -/
def read (text : Text) : Option (Conversion × Text) := do
  let (key, afterKey) ← readName text
  let (flags, afterFlags) := afterKey.span isFlag
  let (width, afterWidth) ← readNumber afterFlags
  let (precision, afterPrecision) ← readPrecision afterWidth
  match dropSize afterPrecision with
  | letter :: rest => some ({ key, flags, width, precision, letter }, rest)
  | [] => none

/-- The field has the flag. -/
def has (conversion : Conversion) (flag : Char) : Bool := conversion.flags.contains flag

/-- The sign that numbers other than negative ones get. -/
def signFlag (conversion : Conversion) : Option Char :=
  if conversion.has '+' then some '+' else if conversion.has ' ' then some ' ' else none

/-- A text, fitted into the width. -/
def writeWhole (conversion : Conversion) (text : Text) : Text :=
  Writing.pad (if conversion.has '-' then .left else .right) ' ' conversion.width [] text

/-- A text, cut to the precision and fitted into the width. -/
def writeText (conversion : Conversion) (text : Text) : Text :=
  conversion.writeWhole <|
    match conversion.precision with
    | some precision => text.take precision
    | none => text

/-- A number, fitted into the width. -/
def writeNumber (conversion : Conversion) (isNegative : Bool) (mark digits : Text) : Text :=
  let lead := Writing.sign isNegative conversion.signFlag ++ mark
  if conversion.has '-' then Writing.pad .left ' ' conversion.width lead digits
  else if conversion.has '0' then Writing.pad .afterSign '0' conversion.width lead digits
  else Writing.pad .right ' ' conversion.width lead digits

/-- An integer in the base that the letter names. -/
def writeInteger (conversion : Conversion) (mark : Text) (value : Int) : Text :=
  let digits := Writing.digitsFor conversion.letter value.natAbs
  writeNumber conversion (value < 0) (if conversion.has '#' then mark else [])
    (Text.zeroFilled (conversion.precision.getD 0) digits)

/-- A value as a decimal integer. -/
def writeDecimal? (conversion : Conversion) : Value → Option Text
  | .int value => some (conversion.writeInteger [] value)
  | .float value => some (conversion.writeInteger [] value.truncate)
  | _ => none

/-- A value in a base that shows bits. -/
def writeBits? (conversion : Conversion) : Value → Option Text
  | .int value => some (conversion.writeInteger (Writing.baseMark conversion.letter) value)
  | _ => none

/-- A value with decimal places. -/
def writeReal? (conversion : Conversion) (value : Value) : Option Text :=
  (Writing.number? value).bind fun number =>
    (Writing.real? conversion.letter conversion.precision (conversion.has '#') number).map
      (conversion.writeNumber number.isNegative [])

/-- A value as one character. -/
def writeChar? (conversion : Conversion) : Value → Option Text
  | .text [char] => some (conversion.writeWhole [char])
  | .int code =>
    if 0 ≤ code ∧ code < 0x110000 then some (conversion.writeWhole [Char.ofNat code.toNat])
    else none
  | _ => none

/-- A value in the form that the conversion asks for. -/
def write? (conversion : Conversion) (value : Value) : Option Text :=
  match conversion.letter with
  | 's' => some (conversion.writeText value.plain)
  | 'r' => some (conversion.writeText value.display)
  | 'a' => some (conversion.writeText (Writing.asciiDisplay value))
  | 'd' | 'i' | 'u' => conversion.writeDecimal? value
  | 'o' | 'x' | 'X' => conversion.writeBits? value
  | 'e' | 'E' | 'f' | 'F' | 'g' | 'G' => conversion.writeReal? value
  | 'c' => conversion.writeChar? value
  | _ => none

end Conversion

/-- The line that a layout makes of fields. The value that is there for a field without a name is
taken by the first such field; a field with a name leaves none. Every character of the layout takes
at most one unit of fuel. -/
def renderWithin (fields : Fields) (unnamed : Option Value) : Nat → Text → Option Text
  | _, [] => some []
  | 0, _ => none
  | fuel + 1, '%' :: '%' :: rest => (renderWithin fields unnamed fuel rest).map ('%' :: ·)
  | fuel + 1, '%' :: rest => do
    let (conversion, after) ← Conversion.read rest
    let value ← match conversion.key with
      | some key => fields.lookup key
      | none => unnamed
    let written ← conversion.write? value
    (renderWithin fields none fuel after).map (written ++ ·)
  | fuel + 1, char :: rest => (renderWithin fields unnamed fuel rest).map (char :: ·)

/-- The line that a layout makes of fields, if it can be made. -/
def render (fields : Fields) (layout : Text) : Option Text :=
  renderWithin fields (some (.mapping fields)) layout.length layout

end Percent
end Logging
end PackageRepos
