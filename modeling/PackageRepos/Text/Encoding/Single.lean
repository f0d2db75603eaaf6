import PackageRepos.Text.Basic
import PackageRepos.Text.Encoding.Chart

/-!
# One byte for every character

Texts whose characters are written with one byte each: those of ASCII, the first characters of all,
or those of a chart.
-/

namespace PackageRepos
namespace Encoding

/-- Encodes with one byte for every character, where all of them are below a limit. -/
def encodeBelow (limit : Nat) (text : Text) : Option (List UInt8) :=
  if text.all fun char => char.toNat < limit then
    some (text.map fun char => UInt8.ofNat char.toNat)
  else none

/-- Encodes by a chart, which must have all of the characters. -/
def encodeChart (chars text : Text) : Option (List UInt8) :=
  text.mapM fun char =>
    if char != missingChar && chars.contains char then some (UInt8.ofNat (chars.idxOf char))
    else none

end Encoding
end PackageRepos
