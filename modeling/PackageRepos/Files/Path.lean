import PackageRepos.Text.Quoted

/-!
# Paths

A path is a root and the names that follow it. Reading a path from text drops what does not matter
to it: empty names, names that are a single dot, and slashes at the end.
-/

namespace PackageRepos
namespace Files

/-- A path, free of empty names and single dots. -/
structure Path where
  /-- Nothing for a relative path, else one slash, or two. -/
  root : Text := []
  names : List Text := []
deriving DecidableEq, Repr

namespace Path

/-- The name that leads to the directory above. -/
def parentName : Text := ['.', '.']

/-- The name carries no step: it is empty or a single dot. -/
def isIdle (name : Text) : Bool := name.isEmpty || name == ['.']

/-- The root of a path text. Exactly two slashes at the start are kept. -/
def rootOf (text : Text) : Text :=
  match (text.takeWhile (· == '/')).length with
  | 0 => []
  | 2 => ['/', '/']
  | _ => ['/']

/-- The path that a text denotes. -/
def ofText (text : Text) : Path :=
  { root := rootOf text, names := (text.splitOn '/').filter fun name => !isIdle name }

/-- The path as text; the empty path is a dot. -/
def toText (path : Path) : Text :=
  if path.root.isEmpty && path.names.isEmpty then ['.']
  else path.root ++ Text.join ['/'] path.names

/-- The last name. -/
def name? (path : Path) : Option Text := path.names.getLast?

/-- The path with another last name, provided that it has one. -/
def withName? (path : Path) (name : Text) : Option Path :=
  if path.names.isEmpty then none else some { path with names := path.names.dropLast ++ [name] }

/-- A further path taken from this one; an absolute path starts anew. -/
def append (path further : Path) : Path :=
  if further.root.isEmpty then { path with names := path.names ++ further.names } else further

/-- The text of a directory followed by the name of an entry. -/
def entryText (directory name : Text) : Text :=
  if directory.isEmpty || directory.getLast? == some '/' then directory ++ name
  else directory ++ '/' :: name

/-- Takes back the names that a following double dot undoes. -/
def collapse (names : List Text) : List Text :=
  (names.foldl step []).reverse
where
  /-- Adds one name to the names kept so far, the last one first. -/
  step (kept : List Text) (name : Text) : List Text :=
    if name = parentName then
      match kept with
      | last :: rest => if last = parentName then name :: kept else rest
      | [] => [name]
    else name :: kept

end Path
end Files
end PackageRepos
