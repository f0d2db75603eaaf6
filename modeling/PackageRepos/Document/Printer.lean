import PackageRepos.Value

/-!
# Printing documents

A document prints in brackets on one line, with every text quoted.
-/

namespace PackageRepos
namespace Document

/-- One character of a quoted text. -/
def printedChar (char : Char) : Text :=
  if char == '"' || char == '\\' then ['\\', char]
  else if char == '\n' then ['\\', 'n']
  else if char == '\r' then ['\\', 'r']
  else if char == '\t' then ['\\', 't']
  else if char.toNat < 0x20 || char.toNat == 0x7f then
    '\\' :: 'u' :: Text.hexadecimal 4 char.toNat
  else [char]

/-- A number that may have a fraction. There is a point in it even before an exponent. -/
def printFloat : Binary64 → Text
  | .infinite isNegative => if isNegative then Text.of "-.inf" else Text.of ".inf"
  | .undefined => Text.of ".nan"
  | number =>
    let (digits, exponent) := number.display.span (· != 'e')
    if digits.contains '.' then digits ++ exponent else digits ++ '.' :: '0' :: exponent

/-- A text between double quotes. -/
def printText (text : Text) : Text := '"' :: text.flatMap printedChar ++ ['"']

mutual

/-- The text of a document. -/
def print : Value → Text
  | .absent => Text.of "null"
  | .bool value => if value then Text.of "true" else Text.of "false"
  | .int value => Value.decimal value
  | .float value => printFloat value
  | .text value => printText value
  | .list items | .tuple items => '[' :: Text.join (Text.of ", ") (printItems items) ++ [']']
  | .mapping entries => '\x7b' :: Text.join (Text.of ", ") (printEntries entries) ++ ['\x7d']
  | .bytes value => printText (Value.displayBytes value)
  | .address family => printText (Text.of family.word)
  | .thing kind => printText (Text.of kind)

/-- The texts of the items of a sequence. -/
def printItems : List Value → List Text
  | [] => []
  | item :: rest => print item :: printItems rest

/-- The texts of the entries of a mapping. -/
def printEntries : List (Text × Value) → List Text
  | [] => []
  | (key, value) :: rest => (printText key ++ ':' :: ' ' :: print value) :: printEntries rest

end

end Document
end PackageRepos
