import PackageRepos.Text.Basic

/-!
# Blank characters and line breaks

Three classes of characters and what follows from them: blanks, which trimming removes; the blanks
among the ASCII characters, which numerals may stand between; and line breaks.
-/

namespace PackageRepos
namespace Text

/-- Unicode white space: the characters that trimming removes. -/
def isBlank (char : Char) : Bool :=
  let code := char.toNat
  (0x09 ≤ code && code ≤ 0x0d) || (0x1c ≤ code && code ≤ 0x20) || code == 0x85 || code == 0xa0 ||
    code == 0x1680 || (0x2000 ≤ code && code ≤ 0x200a) || code == 0x2028 || code == 0x2029 ||
    code == 0x202f || code == 0x205f || code == 0x3000

/-- The blanks that may surround a numeral. -/
def isAsciiBlank (char : Char) : Bool :=
  let code := char.toNat
  (0x09 ≤ code && code ≤ 0x0d) || code == 0x20

/-- Characters at which a text breaks into lines when it is displayed. -/
def isLineBreak (char : Char) : Bool :=
  let code := char.toNat
  (0x0a ≤ code && code ≤ 0x0d) || (0x1c ≤ code && code ≤ 0x1e) || code == 0x85 ||
    code == 0x2028 || code == 0x2029

theorem isBlank_of_isAsciiBlank {char : Char} (ascii : isAsciiBlank char = true) :
    isBlank char = true := by
  grind [isBlank, isAsciiBlank]

/-- Removes the blanks at the start. -/
def stripLeft (text : Text) : Text := text.dropWhile isBlank

/-- Removes the blanks at the end. -/
def stripRight (text : Text) : Text := (text.reverse.dropWhile isBlank).reverse

/-- Removes the blanks at both ends. -/
def strip (text : Text) : Text := stripRight (stripLeft text)

/-- Number of blanks at the start. -/
def indentation (text : Text) : Nat := (text.takeWhile isBlank).length

end Text
end PackageRepos
