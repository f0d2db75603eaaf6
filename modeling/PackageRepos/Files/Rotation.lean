import PackageRepos.Files.Stream
import PackageRepos.Value

/-!
# Keeping former files

When a file is moved away, it becomes the first of its former files, the first becomes the second,
and so on; the last one is lost. Files that are open go with their places.
-/

namespace PackageRepos
namespace Files

/-- The path of a former file. -/
def formerPath (path : Text) (number : Nat) : Text := path ++ '.' :: Value.decimal number

/-- A step of moving files away. -/
inductive Shift where
  /-- What stands at a path is removed, if anything does. -/
  | clear (path : Text)
  /-- A file is moved, if it is there, in place of another one. -/
  | pass (source target : Text)
deriving DecidableEq, Repr

namespace Shift

/-- The steps that move a file away and keep a number of former files, which is not zero. -/
def ofRotation (path : Text) (count : Nat) : List Shift :=
  let first := formerPath path 1
  (List.range (count - 1)).reverse.map (fun index =>
    pass (formerPath path (index + 1)) (formerPath path (index + 2))) ++
      [clear first, pass path first]

/-- Removes what stands at a path, if anything does. -/
def clearIn (tree : Tree) (path : Text) : Except Fault Tree :=
  if tree.contains path then tree.remove path else .ok tree

/-- Takes a step in a tree. -/
def applyTo (tree : Tree) : Shift → Except Fault Tree
  | clear path => clearIn tree path
  | pass source target =>
    if tree.contains source then (clearIn tree target).bind (·.move source target) else .ok tree

/-- An open file after a step, from the tree before it. -/
def follow (tree : Tree) (file : OpenFile) : Shift → OpenFile
  | clear path =>
    match tree.locate path with
    | .ok location => file.afterRemoval tree location
    | .error _ => file
  | pass source target =>
    if tree.contains source then
      match tree.locate source, tree.locate target with
      | .ok origin, .ok destination =>
        (file.afterRemoval tree destination).afterMove origin destination
      | _, _ => file
    else file

end Shift
end Files
end PackageRepos
