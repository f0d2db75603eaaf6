import PackageRepos.Text.Blank

/-!
# Continuation lines

A value may go on in the next lines when these are indented. Folding brings such lines into the
line that they continue, so that every key has one line: directly after a final equals sign, and
after a semicolon otherwise.
-/

namespace PackageRepos
namespace Folding

/-- A line with its tabs replaced by spaces. -/
def untabbed (line : Text) : Text := line.map fun char => if char = '\t' then ' ' else char

/-- The line continues the line before it. -/
def isContinuation (line : Text) : Bool := line.head? == some ' '

/-- A line with a continuation line added to it. -/
def extend (previous line : Text) : Text :=
  if previous.getLast? = some '=' then previous ++ Text.stripLeft line
  else previous ++ ';' :: Text.stripLeft line

/-- Folds lines that follow an unfinished line. -/
def foldOnto (previous : Text) : List Text → List Text
  | [] => [previous]
  | line :: rest =>
    if isContinuation line then foldOnto (extend previous line) rest
    else previous :: foldOnto line rest

/-- Folds lines without tabs. The first line continues nothing, whatever it starts with. -/
def foldLines : List Text → List Text
  | [] => []
  | first :: rest => foldOnto first rest

/-- Folds the continuation lines of a text. -/
def fold (text : Text) : Text := Text.unlines (foldLines ((Text.lines text).map untabbed))

@[simp]
theorem foldOnto_nil (previous : Text) : foldOnto previous [] = [previous] := rfl

theorem foldOnto_cons_of_continuation {previous line : Text} (rest : List Text)
    (continues : isContinuation line = true) :
    foldOnto previous (line :: rest) = foldOnto (extend previous line) rest := by
  simp [foldOnto, continues]

theorem foldOnto_cons_of_start {previous line : Text} (rest : List Text)
    (starts : isContinuation line = false) :
    foldOnto previous (line :: rest) = previous :: foldOnto line rest := by
  simp [foldOnto, starts]

end Folding
end PackageRepos
