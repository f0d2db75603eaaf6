/-!
# Text

Text is a list of characters, so that every rule about it follows by induction on the list.
The operations here cut a text into lines and put lines back together.
-/

namespace PackageRepos

/-- A text as the list of its characters. -/
abbrev Text := List Char

namespace Text

/-- The text of a string literal. -/
def of (literal : String) : Text := literal.toList

/-- Cuts a text at every newline; a text without a newline is one line. -/
def lines (text : Text) : List Text := text.splitOn '\n'

/-- Joins pieces, with the separator between any two of them. -/
def join (separator : Text) (pieces : List Text) : Text := separator.intercalate pieces

/-- Joins lines with newlines. -/
def unlines (pieces : List Text) : Text := join ['\n'] pieces

@[simp]
theorem unlines_lines (text : Text) : unlines (lines text) = text :=
  List.intercalate_splitOn '\n'

theorem lines_unlines {pieces : List Text} (single : ∀ piece ∈ pieces, '\n' ∉ piece)
    (nonempty : pieces ≠ []) : lines (unlines pieces) = pieces :=
  List.splitOn_intercalate '\n' single nonempty

/-- The lines of a text, each with the newline that ends it. A text that ends with a newline has
no further line after it. -/
def terminatedLines (text : Text) : List Text :=
  terminate (lines text)
where
  /-- Ends every line but the last one, and drops the last one when it is empty. -/
  terminate : List Text → List Text
    | [] => []
    | [last] => if last.isEmpty then [] else [last]
    | line :: rest => (line ++ ['\n']) :: terminate rest

/-- Reads every carriage return, alone or before a newline, as a newline. -/
def unifyNewlines : Text → Text
  | '\r' :: '\n' :: rest => '\n' :: unifyNewlines rest
  | '\r' :: rest => '\n' :: unifyNewlines rest
  | char :: rest => char :: unifyNewlines rest
  | [] => []

/-- The text ends with the given characters. -/
def endsWith (text ending : Text) : Bool := ending.isSuffixOf text

/-- The first text occurs in the second. -/
def occursIn (part : Text) : Text → Bool
  | [] => part.isEmpty
  | char :: rest => part.isPrefixOf (char :: rest) || occursIn part rest

/-- Digits with zeros before them, up to the given count. -/
def zeroFilled (count : Nat) (digits : Text) : Text :=
  List.replicate (count - digits.length) '0' ++ digits

/-- Lexicographic comparison by code points. -/
def le : Text → Text → Bool
  | [], _ => true
  | _ :: _, [] => false
  | left :: leftRest, right :: rightRest =>
    left.toNat < right.toNat || (left == right && le leftRest rightRest)

end Text
end PackageRepos
