import PackageRepos.Text.Quoted

/-!
# Escaped texts

Texts whose first characters are written with one byte each and all others by escapes, which begin
with a backslash. The raw form has escapes for the codes of characters and nothing else.
-/

namespace PackageRepos
namespace Encoding

/-- The bytes of characters that have one byte each. -/
def singleBytes (text : Text) : List UInt8 := text.map fun char => UInt8.ofNat char.toNat

/-- The bytes of a character. In the raw form only characters without a byte are escaped. -/
def encodeEscaped (isRaw : Bool) (char : Char) : List UInt8 :=
  let code := char.toNat
  let isPlain := if isRaw then code < 0x100 else 0x20 ≤ code && code < 0x7f && char != '\\'
  singleBytes <|
    if isPlain then [char]
    else if char == '\\' then ['\\', '\\']
    else if char == '\t' then ['\\', 't']
    else if char == '\n' then ['\\', 'n']
    else if char == '\r' then ['\\', 'r']
    else if code < 0x100 then '\\' :: 'x' :: Text.hexadecimal 2 code
    else if code < 0x10000 then '\\' :: 'u' :: Text.hexadecimal 4 code
    else '\\' :: 'U' :: Text.hexadecimal 8 code

end Encoding
end PackageRepos
