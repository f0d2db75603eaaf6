import PackageRepos.Text.Basic

/-!
# Lower case, as far as ASCII words can tell

Keywords and unit letters are ASCII and are compared without regard to case. Only the ASCII
capitals and the Kelvin sign have a lower-case form that is an ASCII letter; the lower-case form of
every other character holds a character outside ASCII, so leaving that character as it is never
changes the comparison with an ASCII word.
-/

namespace PackageRepos
namespace Text

/-- The lower-case form of a character, where that is a single ASCII letter. -/
def lowerChar (char : Char) : Char :=
  if char.toNat = 0x212a then 'k' else char.toLower

/-- Lower-cases every character. -/
def lower (text : Text) : Text := text.map lowerChar

end Text
end PackageRepos
