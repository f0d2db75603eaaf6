import PackageRepos.KeyFile.Basic

/-!
# Printing key files

A group prints as its header, one line for every key, and a blank line; comments print above what
they are kept for, and the remaining ones at the end.
-/

namespace PackageRepos
namespace KeyFile

/-- The line of an entry. -/
def entryLine (key value : Text) : Text := key ++ Text.of " = " ++ value

/-- The header of a group. -/
def headerLine (group : Text) : Text := '[' :: group ++ [']']

/-- The lines of a key and the comments above it. -/
def keyLines (keyFile : KeyFile) (group key : Text) : List Text :=
  keyFile.commentsAt { group, key := some key } ++
    [entryLine key ((keyFile.value? group key).getD [])]

/-- The lines of a group. -/
def groupLines (keyFile : KeyFile) (group : Text) : List Text :=
  keyFile.commentsAt { group } ++ headerLine group ::
    (keyFile.keysOf group).flatMap (keyFile.keyLines group) ++ [[]]

/-- The lines of a key file. The text ends with a newline, unless there are no lines. -/
def printLines (keyFile : KeyFile) : List Text :=
  let body := keyFile.groupNames.flatMap keyFile.groupLines ++ keyFile.trailing
  match body.getLast? with
  | some (_ :: _) => body ++ [[]]
  | _ => body

/-- The text of a key file. -/
def print (keyFile : KeyFile) : Text := Text.unlines keyFile.printLines

end KeyFile
end PackageRepos
