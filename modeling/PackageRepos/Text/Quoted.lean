import PackageRepos.Text.Printable

/-!
# Quoted text

How a message shows a text: between single quotes, or between double quotes when the text holds
single quotes and no double ones, with an escape for the quote, the backslash and every character
that is not printable.
-/

namespace PackageRepos
namespace Text

/-- A lower-case hexadecimal number padded with zeros to the given width. -/
def hexadecimal (width : Nat) (number : Nat) : Text := zeroFilled width (Nat.toDigits 16 number)

/-- The quote that delimits a quoted text. -/
def delimiter (text : Text) : Char :=
  if text.contains '\'' && !text.contains '"' then '"' else '\''

/-- One character between the given quotes. -/
def quotedChar (quote : Char) (char : Char) : Text :=
  if char == quote || char == '\\' then ['\\', char]
  else if char == '\n' then ['\\', 'n']
  else if char == '\r' then ['\\', 'r']
  else if char == '\t' then ['\\', 't']
  else if isPrintable char then [char]
  else if char.toNat < 0x100 then '\\' :: 'x' :: hexadecimal 2 char.toNat
  else if char.toNat < 0x10000 then '\\' :: 'u' :: hexadecimal 4 char.toNat
  else '\\' :: 'U' :: hexadecimal 8 char.toNat

/-- The text as messages show it. -/
def quoted (text : Text) : Text :=
  let quote := delimiter text
  quote :: text.flatMap (quotedChar quote) ++ [quote]

end Text
end PackageRepos
