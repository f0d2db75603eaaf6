import PackageRepos.Logging.Layout.Fields
import PackageRepos.Logging.Layout.Writing
import PackageRepos.Text.Digit
import PackageRepos.Text.Word

/-!
# Layouts with braces

A field stands between braces: its name, an optional conversion after an exclamation mark, and an
optional form after a colon. A brace of the text itself is written twice. A text without any named
field is no layout.
-/

namespace PackageRepos
namespace Logging
namespace Brace

/-! ## Pieces -/

/-- A part of a layout. -/
inductive Piece where
  | literal (char : Char)
  | field (name : Text) (conversion : Option Char) (form : Text)
deriving DecidableEq, Repr

/-- Takes the name of a field and the character that ends it. Brackets in a name enclose anything
but a closing bracket. -/
def readName (isBracketed : Bool) : Text → Option (Text × Char × Text)
  | [] => none
  | char :: rest =>
    let proceed := fun inside =>
      (readName inside rest).map fun (name, stop, after) => (char :: name, stop, after)
    if isBracketed then proceed (char != ']')
    else if char = '{' then none
    else if char = '}' ∨ char = ':' ∨ char = '!' then some ([], char, rest)
    else proceed (char = '[')

/-- Takes a form up to the brace that closes its field. -/
def readForm (depth : Nat) : Text → Option (Text × Text)
  | [] => none
  | '}' :: rest =>
    if depth = 0 then some ([], rest)
    else (readForm (depth - 1) rest).map fun (form, after) => ('}' :: form, after)
  | '{' :: rest => (readForm (depth + 1) rest).map fun (form, after) => ('{' :: form, after)
  | char :: rest => (readForm depth rest).map fun (form, after) => (char :: form, after)

/-- Takes a field after its opening brace. -/
def readField (text : Text) : Option (Piece × Text) := do
  let (name, stop, rest) ← readName false text
  match stop, rest with
  | ':', _ =>
    let (form, after) ← readForm 0 rest
    some (.field name none form, after)
  | '!', conversion :: '}' :: after => some (.field name (some conversion) [], after)
  | '!', conversion :: ':' :: more =>
    let (form, after) ← readForm 0 more
    some (.field name (some conversion) form, after)
  | '!', _ => none
  | _, _ => some (.field name none [], rest)

/-- Takes the pieces of a layout. Every piece takes a unit of fuel. -/
def piecesWithin : Nat → Text → Option (List Piece)
  | _, [] => some []
  | 0, _ => none
  | fuel + 1, '{' :: '{' :: rest => (piecesWithin fuel rest).map (.literal '{' :: ·)
  | fuel + 1, '}' :: '}' :: rest => (piecesWithin fuel rest).map (.literal '}' :: ·)
  | fuel + 1, '{' :: rest => do
    let (piece, after) ← readField rest
    (piecesWithin fuel after).map (piece :: ·)
  | _ + 1, '}' :: _ => none
  | fuel + 1, char :: rest => (piecesWithin fuel rest).map (.literal char :: ·)

/-- The pieces of a layout, if its braces pair up. -/
def pieces? (layout : Text) : Option (List Piece) := piecesWithin layout.length layout

/-! ## The check -/

/-- What may be left at the end of a text that is checked: nothing, or a newline. -/
def isEnd (text : Text) : Bool := text.isEmpty || text == ['\n']

/-- The text is made of members and items of a field. Every one takes a unit of fuel. -/
def isAccessWithin : Nat → Text → Bool
  | fuel + 1, '.' :: rest =>
    match rest.span Text.isWordChar with
    | (_ :: _, after) => isAccessWithin fuel after
    | _ => false
  | fuel + 1, '[' :: rest =>
    match rest.span (· != ']') with
    | (_ :: _, ']' :: after) => isAccessWithin fuel after
    | _ => false
  | _, rest => isEnd rest

/-- The name of a field: a word, followed by members and items. -/
def isName (name : Text) : Bool :=
  match name.span Text.isWordChar with
  | (_ :: _, rest) => isAccessWithin rest.length rest
  | _ => false

/-- The text without its first character, if that is one of the given ones, and as it is. -/
def optionally (chars : String) (text : Text) : List Text :=
  match text with
  | char :: rest => if (Text.of chars).contains char then [rest, text] else [text]
  | [] => [text]

/-- Takes an alignment, with or without a character to fill with. -/
def afterAlignment (text : Text) : List Text :=
  let signs := Text.of "<>=^"
  let filled := match text with
    | fill :: sign :: rest => if fill != '\n' && signs.contains sign then [rest] else []
    | _ => []
  filled ++ optionally "<>=^" text

/-- Takes a number, or a word in braces that stands for one. -/
def dropNumber? : Text → Option Text
  | '{' :: rest =>
    match rest.span Text.isWordChar with
    | (_ :: _, '}' :: after) => some after
    | _ => none
  | text =>
    match text.span Text.isDigitChar with
    | (_ :: _, after) => some after
    | _ => none

/-- Takes a width, if there is one. -/
def afterWidth (text : Text) : List Text :=
  match dropNumber? text with
  | some rest => [rest, text]
  | none => [text]

/-- Takes a point and the precision after it, if both are there. -/
def afterPrecision (text : Text) : List Text :=
  match text with
  | '.' :: rest =>
    match dropNumber? rest with
    | some after => [after, text]
    | none => [text]
  | _ => [text]

/-- The letters that a form may end with, and what counts as one of them when case does not
matter. -/
def isFormLetter (char : Char) : Bool :=
  (Text.of "bcdefgnosx%").contains char.toLower || char.toNat == 0x17f

/-- Takes the letter of a form, if there is one. -/
def afterLetter (text : Text) : List Text :=
  match text with
  | char :: rest => if isFormLetter char then [rest, text] else [text]
  | [] => [text]

/-- A form that fields may have: an alignment, a sign, marks, a width, a separator, a precision and
a letter, all of which may be missing. -/
def isForm (form : Text) : Bool :=
  ((((((((afterAlignment form).flatMap (optionally "+ -")).flatMap (optionally "#")).flatMap
    (optionally "0")).flatMap afterWidth).flatMap (optionally ",_")).flatMap afterPrecision).flatMap
      afterLetter).any isEnd

/-- The piece may stand in a layout. -/
def isUsable : Piece → Bool
  | .literal _ => true
  | .field name conversion form =>
    (name.isEmpty || isName name) && conversion.all (Text.of "rsa").contains &&
      (form.isEmpty || isForm form)

/-- The piece is a field with a name. -/
def isNamed : Piece → Bool
  | .field (_ :: _) _ _ => true
  | _ => false

/-- The text is a layout: it has a named field, and only pieces that may stand in one. -/
def isValid (layout : Text) : Bool :=
  match pieces? layout with
  | some pieces => pieces.all isUsable && pieces.any isNamed
  | none => false

/-! ## Making a line -/

/-- How a field is to be written. -/
structure Form where
  /-- The character to fill with, if one is given. -/
  fill : Option Char := none
  alignment : Option Writing.Alignment := none
  signFlag : Option Char := none
  /-- A number that is shown as zero loses its sign. -/
  isZeroUnsigned : Bool := false
  isMarked : Bool := false
  isZeroFilled : Bool := false
  width : Nat := 0
  separator : Option Char := none
  precision : Option Nat := none
  letter : Option Char := none

namespace Form

/-- The alignment that a sign stands for. -/
def alignmentOf? : Char → Option Writing.Alignment
  | '<' => some .left
  | '>' => some .right
  | '^' => some .center
  | '=' => some .afterSign
  | _ => none

/-- Takes an alignment. -/
def readAlignment (text : Text) : Form × Text :=
  match text with
  | fill :: sign :: rest =>
    match alignmentOf? sign, alignmentOf? fill with
    | some alignment, _ => ({ fill := some fill, alignment := some alignment }, rest)
    | none, some alignment => ({ alignment := some alignment }, sign :: rest)
    | none, none => ({}, text)
  | [sign] =>
    match alignmentOf? sign with
    | some alignment => ({ alignment := some alignment }, [])
    | none => ({}, text)
  | [] => ({}, [])

/-- Takes a character if it is one of the given ones. -/
def readOne (chars : String) (text : Text) : Option Char × Text :=
  match text with
  | char :: rest => if (Text.of chars).contains char then (some char, rest) else (none, text)
  | [] => (none, [])

/-- Takes a number in digits of any script, if there is one. -/
def readNumber (text : Text) : Option (Option Nat × Text) :=
  match text.span Text.isDigitChar with
  | ([], rest) => some (none, rest)
  | (digits, rest) =>
    let number := Text.numberOf digits
    if Writing.widthLimit < number then none else some (some number, rest)

/-- Takes a precision, which must have digits. -/
def readPrecision : Text → Option (Option Nat × Text)
  | '.' :: rest =>
    match readNumber rest with
    | some (some number, after) => some (some number, after)
    | _ => none
  | rest => some (none, rest)

/-- The letter goes with a separator between groups of digits. -/
def allowsSeparator (separator : Char) : Option Char → Bool
  | none => true
  | some letter =>
    (Text.of "defgEFG%").contains letter || (separator == '_' && (Text.of "boxX").contains letter)

/-- The form that a text describes. -/
def ofText? (text : Text) : Option Form := do
  let (form, afterAlignment) := readAlignment text
  let (signFlag, afterSign) := readOne "+- " afterAlignment
  let (unsigned, afterUnsigned) := readOne "z" afterSign
  let (mark, afterMark) := readOne "#" afterUnsigned
  let (zero, afterZero) := if form.fill.isSome then (none, afterMark) else readOne "0" afterMark
  let (width, afterWidth) ← readNumber afterZero
  let (separator, afterSeparator) := readOne ",_" afterWidth
  let (precision, afterPrecision) ← readPrecision afterSeparator
  let letter := afterPrecision.head?
  if 1 < afterPrecision.length || !separator.all (allowsSeparator · letter) then none
  else
    some { form with
      signFlag, isZeroUnsigned := unsigned.isSome, isMarked := mark.isSome,
      isZeroFilled := zero.isSome, width := width.getD 0, separator, precision, letter }

/-- The character to fill with. -/
def filling (form : Form) : Char := form.fill.getD (if form.isZeroFilled then '0' else ' ')

/-- A text in the form. -/
def writeText? (form : Form) (text : Text) : Option Text :=
  let isPlain := form.signFlag.isNone && !form.isZeroUnsigned && !form.isMarked &&
    form.separator.isNone && form.alignment != some .afterSign &&
      (form.letter.isNone || form.letter == some 's')
  let cut := match form.precision with
    | some precision => text.take precision
    | none => text
  if isPlain then
    some (Writing.pad (form.alignment.getD .left) form.filling form.width [] cut)
  else none

/-- Digits in groups of the given size, with zeros before them up to a width. -/
def spread (form : Form) (size least : Nat) (digits : Text) : Text :=
  match form.separator with
  | some separator =>
    Writing.grouped separator size (Text.zeroFilled (Writing.digitsToFill size least) digits)
  | none => Text.zeroFilled least digits

/-- A number in the form: its sign, what marks its base, its digits before the point, and the
rest. Zeros that fill the width count as digits. -/
def writeNumber (form : Form) (isNegative : Bool) (mark : Text) (size : Nat)
    (whole rest : Text) : Text :=
  let lead := Writing.sign isNegative form.signFlag ++ mark
  let alignment := form.alignment.getD (if form.isZeroFilled then .afterSign else .right)
  let least :=
    if alignment = .afterSign ∧ form.filling = '0' then
      form.width - (lead.length + rest.length)
    else 0
  Writing.pad alignment form.filling form.width lead (form.spread size least whole ++ rest)

/-- A number with what is written for its magnitude. -/
def writeReal (form : Form) (number : Binary64) (magnitude : Text) : Text :=
  let (whole, rest) := magnitude.span Char.isDigit
  form.writeNumber number.isNegative [] 3 whole rest

/-- A number that may have a fraction in the form. -/
def writeFloat? (form : Form) (number : Binary64) : Option Text :=
  match form.letter with
  | none =>
    match form.precision with
    | none => some (form.writeReal number (number.display.dropWhile (· == '-')))
    | some count =>
      let decimals : Binary64.DecimalForm :=
        { style := .general, count, isMarked := form.isMarked, hasFraction := true }
      some (form.writeReal number (decimals.write number))
  | some '%' =>
    (Writing.real? 'f' form.precision form.isMarked (number.scale 100)).map fun magnitude =>
      form.writeReal number (magnitude ++ ['%'])
  | some letter =>
    (Writing.real? (if letter = 'n' then 'g' else letter) form.precision form.isMarked number).map
      (form.writeReal number)

/-- An integer as the character that it is the code of. -/
def writeCode? (form : Form) (code : Int) : Option Text :=
  let isPlain := form.signFlag.isNone && !form.isMarked && form.separator.isNone
  if isPlain && 0 ≤ code && code < 0x110000 then
    some (form.writeNumber false [] 3 [] [Char.ofNat code.toNat])
  else none

/-- An integer in the form. -/
def writeInteger? (form : Form) (value : Int) : Option Text :=
  let isWhole := form.precision.isNone && !form.isZeroUnsigned
  let letter := form.letter.getD 'd'
  let write := fun (size : Nat) (mark : Text) =>
    some (form.writeNumber (value < 0) mark size (Writing.digitsFor letter value.natAbs) [])
  if (Text.of "dn").contains letter then if isWhole then write 3 [] else none
  else if (Text.of "boxX").contains letter then
    if isWhole then write 4 (if form.isMarked then Writing.baseMark letter else []) else none
  else if letter = 'c' then if isWhole then form.writeCode? value else none
  else form.writeFloat? (Binary64.ofDecimal (value < 0) value.natAbs 0)

/-- A value in the form. A value that is neither a text nor a number has no forms. -/
def write? (form : Form) : Value → Option Text
  | .text text => form.writeText? text
  | .int value => form.writeInteger? value
  | .float value => form.writeFloat? value
  | _ => none

end Form

/-- The item of a value that digits point at. -/
def itemAt? (index : Text) (value : Value) : Option Value :=
  if index.isEmpty || !index.all Text.isDigitChar then none
  else
    match value with
    | .text text => (text[Text.numberOf index]?).map fun char => .text [char]
    | .tuple items | .list items => items[Text.numberOf index]?
    | _ => none

/-- The part of a number that has the given name. -/
def partOf? (name : Text) (value : Value) : Option Value :=
  match value, String.ofList name with
  | .int _, "real" | .int _, "numerator" | .float _, "real" => some value
  | .int _, "imag" => some (.int 0)
  | .int _, "denominator" => some (.int 1)
  | .float _, "imag" => some (.float (.finite false 0 0))
  | _, _ => none

/-- The characters that end a name. -/
def endsName (char : Char) : Bool := char == '.' || char == '['

/-- Takes items and parts of a value, one in another, as the rest of a name asks. Every one takes a
unit of fuel. -/
def followWithin? : Nat → Text → Value → Option Value
  | _, [], value => some value
  | fuel + 1, '[' :: rest, value =>
    match rest.span (· != ']') with
    | (index, ']' :: after) => (itemAt? index value).bind (followWithin? fuel after)
    | _ => none
  | fuel + 1, '.' :: rest, value =>
    let (name, after) := rest.span (!endsName ·)
    (partOf? name value).bind (followWithin? fuel after)
  | _, _, _ => none

/-- The value of a field, or of an item or a part of it. -/
def valueOf? (fields : Fields) (name : Text) : Option Value :=
  let (known, rest) := name.span (!endsName ·)
  (fields.lookup known).bind (followWithin? rest.length rest)

/-- The text that a field gives. -/
def writeField? (fields : Fields) (name : Text) (conversion : Option Char) (form : Text) :
    Option Text := do
  let value ← valueOf? fields name
  let converted ← match conversion with
    | none => some value
    | some 's' => some (.text value.plain)
    | some 'r' => some (.text value.display)
    | some 'a' => some (.text (Writing.asciiDisplay value))
    | some _ => none
  if form.isEmpty then some converted.plain
  else (Form.ofText? form).bind fun form => form.write? converted

/-- A form with the values of the fields in it put in place. -/
def expandForm? (fields : Fields) (form : Text) : Option Text := do
  let pieces ← pieces? form
  let written ← pieces.mapM fun
    | .literal char => some [char]
    | .field name conversion inner => writeField? fields name conversion inner
  some written.flatten

/-- The line that a layout makes of fields, if it can be made. -/
def render (fields : Fields) (layout : Text) : Option Text := do
  let pieces ← pieces? layout
  let written ← pieces.mapM fun
    | .literal char => some [char]
    | .field name conversion form => do
      let expanded ← if form.contains '{' then expandForm? fields form else some form
      writeField? fields name conversion expanded
  some written.flatten

end Brace
end Logging
end PackageRepos
