import PackageRepos.Files.Path
import PackageRepos.OrderedMap
import PackageRepos.Text.Utf8

/-!
# File trees

A tree of files and directories, and what can go wrong in using it. Every operation looks at the
tree alone. A path that starts with a slash leads from the root, any other one from the current
directory. The current directory and those above it are always there.
-/

namespace PackageRepos
namespace Files

/-- A failure of which the tree knows nothing: leave is refused, or the medium is full. The system
gives it a number and a wording. -/
structure SystemFault where
  number : Nat
  wording : String
deriving DecidableEq, Repr

/-- The kinds of failure of a file operation. -/
inductive FaultKind where
  | notFound
  | alreadyExists
  | notADirectory
  | isADirectory
  | busy
  | tooLong
  /-- The path holds the null character, so that it is no path at all. -/
  | malformedPath
  | system (fault : SystemFault)
deriving DecidableEq, Repr

/-- The number and the wording of a kind of failure. -/
def FaultKind.message : FaultKind → String
  | notFound => "[Errno 2] No such file or directory"
  | alreadyExists => "[Errno 17] File exists"
  | notADirectory => "[Errno 20] Not a directory"
  | isADirectory => "[Errno 21] Is a directory"
  | busy => "[Errno 16] Device or resource busy"
  | tooLong => "[Errno 36] File name too long"
  | malformedPath => "embedded null byte"
  | system fault => s!"[Errno {fault.number}] {fault.wording}"

/-- A failed file operation. -/
structure Fault where
  kind : FaultKind
  /-- The path that was given; a file that is open is used without one. -/
  path : Option Text
  /-- The new path of a file that could not be moved. -/
  target : Option Text := none
deriving DecidableEq, Repr

/-- The path was given in a form that no path has, so that the file system was not asked. -/
def Fault.isMalformed (fault : Fault) : Bool := fault.kind == .malformedPath

/-- The wording of a fault. -/
def Fault.message (fault : Fault) : Text :=
  let given := match fault.path, fault.target with
    | some path, some target => ':' :: ' ' :: path.quoted ++ Text.of " -> " ++ target.quoted
    | some path, none => ':' :: ' ' :: path.quoted
    | none, _ => []
  if fault.isMalformed then Text.of fault.kind.message
  else Text.of fault.kind.message ++ given

/-- What stands at a place of a tree. -/
inductive Node where
  | file (content : List UInt8)
  | directory
deriving DecidableEq, Repr

/-- The names that lead from the root to a place. -/
abbrev Location := List Text

/-- Files and directories by their place. A directory lists its entries in the order in which the
tree holds them, which may be any. -/
structure Tree where
  /-- The directory that paths without a slash at their start lead from. -/
  current : Location := []
  nodes : OrderedMap Location Node := ∅
deriving DecidableEq, Repr

namespace Tree

/-- The place is the current directory or one above it. -/
def isAmbient (tree : Tree) (location : Location) : Bool := location.isPrefixOf tree.current

/-- What stands at a place. -/
def node? (tree : Tree) (location : Location) : Option Node :=
  if tree.isAmbient location then some .directory else tree.nodes.get? location

/-- The place that a name leads to from a directory. The root is above itself. -/
def step (location : Location) (name : Text) : Location :=
  if Path.isIdle name then location
  else if name = Path.parentName then location.dropLast
  else location ++ [name]

/-- The most bytes that a name may have. -/
def nameLimit : Nat := 255

/-- The most bytes that a path may have. -/
def pathLimit : Nat := 4095

/-- The text has more bytes than the limit. -/
def exceeds (text : Text) (limit : Nat) : Bool := limit < (Utf8.encode text).length

/-- Follows the names of a path. Every name is looked up in a directory. -/
def walk (tree : Tree) (location : Location) : List Text → Except FaultKind Location
  | [] => .ok location
  | name :: rest =>
    match tree.node? location with
    | none => .error .notFound
    | some (.file _) => .error .notADirectory
    | some .directory =>
      if exceeds name nameLimit then .error .tooLong else tree.walk (step location name) rest

/-- The directory that a path text leads from. -/
def origin (tree : Tree) (path : Text) : Location :=
  if path.head? = some '/' then [] else tree.current

/-- The place that a path text leads to, where something may or may not stand. -/
def locate (tree : Tree) (path : Text) : Except FaultKind Location :=
  if path.contains '\x00' then .error .malformedPath
  else if exceeds path pathLimit then .error .tooLong
  else if path.isEmpty then .error .notFound
  else tree.walk (tree.origin path) (path.splitOn '/')

/-- What stands where a path text leads to. -/
def find? (tree : Tree) (path : Text) : Option Node :=
  match tree.locate path with
  | .ok location => tree.node? location
  | .error _ => none

/-- Something stands where the path leads to. -/
def contains (tree : Tree) (path : Text) : Bool := (tree.find? path).isSome

/-- The path leads to a directory. -/
def isDirectory (tree : Tree) (path : Text) : Bool := tree.find? path == some .directory

/-- What stands where a path leads to, if anything does. A name that is too long cannot even be
looked up. -/
def examine (tree : Tree) (path : Text) : Except Fault (Option Node) :=
  match tree.locate path with
  | .ok location => .ok (tree.node? location)
  | .error .tooLong => .error { kind := .tooLong, path }
  | .error _ => .ok none

/-- The content of a file. -/
def read (tree : Tree) (path : Text) : Except Fault (List UInt8) :=
  match tree.locate path with
  | .error kind => .error { kind, path }
  | .ok location =>
    match tree.node? location with
    | some (.file content) => .ok content
    | some .directory => .error { kind := .isADirectory, path }
    | none => .error { kind := .notFound, path }

/-- Puts a node at a place. -/
def insert (tree : Tree) (location : Location) (node : Node) : Tree :=
  { tree with nodes := tree.nodes.insert location node }

/-- The place of a file to be written, which is not a directory. -/
def fileLocation (tree : Tree) (path : Text) : Except FaultKind Location :=
  match tree.locate path with
  | .error kind => .error kind
  | .ok location =>
    if tree.node? location = some .directory then .error .isADirectory else .ok location

/-- Writes a file, in place of the one that is there. -/
def write (tree : Tree) (path : Text) (content : List UInt8) : Except Fault Tree :=
  match tree.fileLocation path with
  | .ok location => .ok (tree.insert location (.file content))
  | .error kind => .error { kind, path }

/-- The place that a file is moved to. A path that ends with the name of the directory above leads
to a directory in use. -/
def destination (tree : Tree) (path : Text) : Except FaultKind Location :=
  if (Path.ofText path).name? = some Path.parentName then .error .busy else tree.fileLocation path

/-- Moves a node with everything under it to another place. The current directory goes with those
above it. -/
def relocate (tree : Tree) (origin destination : Location) : Tree :=
  let shifted := fun (location : Location) => destination ++ location.drop origin.length
  let moved := tree.nodes.toList.filterMap fun (location, node) =>
    if origin.isPrefixOf location then some (shifted location, node) else none
  let others := tree.nodes.filterKeys fun location => !origin.isPrefixOf location
  { current := if tree.isAmbient origin then shifted tree.current else tree.current
    nodes := others.insertAll moved }

/-- Moves a file, in place of the one that is there, or a directory. -/
def move (tree : Tree) (source target : Text) : Except Fault Tree :=
  match tree.locate source, tree.destination target with
  | .ok origin, .ok destination =>
    if (tree.node? origin).isSome then .ok (tree.relocate origin destination)
    else .error { kind := .notFound, path := source, target := some target }
  | .error kind, _ | _, .error kind => .error { kind, path := source, target := some target }

/-- The places where something is known to stand, in the order in which directories list them. -/
def places (tree : Tree) : List Location :=
  let ambient := (List.range (tree.current.length + 1)).map tree.current.take
  tree.nodes.keys ++ ambient.filter fun place => !tree.nodes.contains place

/-- The names of the entries of a directory. -/
def entries (tree : Tree) (path : Text) : Except Fault (List Text) :=
  match tree.locate path with
  | .error kind => .error { kind, path }
  | .ok location =>
    match tree.node? location with
    | none => .error { kind := .notFound, path }
    | some (.file _) => .error { kind := .notADirectory, path }
    | some .directory =>
      .ok (tree.places.filterMap fun place =>
        if place ≠ [] ∧ place.dropLast = location then place.getLast? else none)

/-- Makes one directory. Slashes at the end of its path do not matter. -/
def makeDirectory (tree : Tree) (path : Text) : Except Fault Tree :=
  let trimmed := (path.reverse.dropWhile (· == '/')).reverse
  match tree.locate trimmed with
  | .error kind => .error { kind, path }
  | .ok location =>
    match tree.node? location with
    | some _ => .error { kind := .alreadyExists, path }
    | none => .ok (tree.insert location .directory)

/-- A path text cut at its last slash; the first part loses its trailing slashes. -/
def splitLast (path : Text) : Text × Text :=
  let tail := (path.reverse.takeWhile (· != '/')).reverse
  let head := path.take (path.length - tail.length)
  let trimmed := (head.reverse.dropWhile (· == '/')).reverse
  (if trimmed.isEmpty then head else trimmed, tail)

/-- Makes one directory, unless it is there. -/
def ensureDirectory (tree : Tree) (path : Text) : Except Fault Unit × Tree :=
  match tree.makeDirectory path with
  | .ok made => (.ok (), made)
  | .error fault => if tree.isDirectory path then (.ok (), tree) else (.error fault, tree)

/-- Makes the last directory of a path whose other directories are there; a single dot at the end
names none. -/
def makeLast (tree : Tree) (path tail : Text) : Except Fault Unit × Tree :=
  if tail = ['.'] then (.ok (), tree) else tree.ensureDirectory path

/-- Makes a directory and those above it that are missing. Every level takes one unit of fuel, and
a path has no more levels than characters. -/
def makeDirectoriesWithin (tree : Tree) (path : Text) : Nat → Except Fault Unit × Tree
  | 0 => tree.ensureDirectory path
  | fuel + 1 =>
    let cut := splitLast path
    let (head, tail) := if cut.2.isEmpty then splitLast cut.1 else cut
    if !head.isEmpty && !tail.isEmpty && !tree.contains head then
      match tree.makeDirectoriesWithin head fuel with
      | (.error fault, made) =>
        if fault.kind = .alreadyExists then made.makeLast path tail else (.error fault, made)
      | (.ok (), made) => made.makeLast path tail
    else tree.ensureDirectory path

/-- Makes a directory and those above it that are missing. Directories made before a failure
stay. -/
def makeDirectories (tree : Tree) (path : Text) : Except Fault Unit × Tree :=
  tree.makeDirectoriesWithin path path.length

/-- Puts a node where a path leads to, and makes the directories above it that are missing. -/
def plant (tree : Tree) (path : Text) (node : Node) : Except Fault Unit × Tree :=
  match node with
  | .directory => tree.makeDirectories path
  | .file content =>
    let parent := (splitLast path).1
    match if parent.isEmpty then (.ok (), tree) else tree.makeDirectories parent with
    | (.error fault, made) => (.error fault, made)
    | (.ok (), made) =>
      match made.write path content with
      | .error fault => (.error fault, made)
      | .ok written => (.ok (), written)

/-- Removes a file. -/
def remove (tree : Tree) (path : Text) : Except Fault Tree :=
  match tree.locate path with
  | .error kind => .error { kind, path }
  | .ok location =>
    match tree.node? location with
    | some (.file _) => .ok { tree with nodes := tree.nodes.erase location }
    | some .directory => .error { kind := .isADirectory, path }
    | none => .error { kind := .notFound, path }

/-- The path of a node as listings show it; a directory has a slash at the end. -/
def shownPath (location : Location) (node : Node) : Text :=
  match node with
  | .file _ => Text.join ['/'] location
  | .directory => Text.join ['/'] location ++ ['/']

/-- What stands under the current directory, by the names that lead there from it. -/
def inner (tree : Tree) : List (Location × Node) :=
  tree.nodes.toList.filterMap fun (location, node) =>
    if tree.current.isPrefixOf location && !tree.isAmbient location then
      some (location.drop tree.current.length, node)
    else none

/-- The paths of everything under the current directory, in order of code points. -/
def paths (tree : Tree) : List Text :=
  (tree.inner.map fun (location, node) => shownPath location node).mergeSort Text.le

/-- The paths of all files under the current directory, in order of code points. -/
def filePaths (tree : Tree) : List Text :=
  let shown := tree.inner.filterMap fun (location, node) =>
    match node with
    | .file _ => some (Text.join ['/'] location)
    | .directory => none
  shown.mergeSort Text.le

end Tree
end Files
end PackageRepos
