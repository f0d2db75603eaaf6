import PackageRepos.Files.Opening

/-!
# Open files

What is opened is a file and not its path: when the file is moved, writing goes on where it was
moved to, and when it is removed, in a file that no path leads to any more. What is written starts
where the writing before it ended, except in a file that is only added to.
-/

namespace PackageRepos
namespace Files

/-- A file that is open. -/
inductive OpenFile where
  | placed (location : Location)
  /-- No path leads to the file any more. -/
  | removed (content : List UInt8)
deriving DecidableEq, Repr

/-- A file that is open for writing. -/
structure Stream where
  file : OpenFile
  /-- Where the last writing ended, as far as this stream knows. -/
  position : Nat
  /-- All writing is done at the end of the file. -/
  isAppending : Bool
deriving DecidableEq, Repr

namespace OpenFile

/-- The content of an open file. -/
def contentIn (tree : Tree) : OpenFile → List UInt8
  | placed location =>
    match tree.node? location with
    | some (.file content) => content
    | _ => []
  | removed content => content

/-- The open file after what is at a place was removed from a tree. -/
def afterRemoval (file : OpenFile) (tree : Tree) (location : Location) : OpenFile :=
  if file = placed location then removed (file.contentIn tree) else file

/-- The open file after what is at a place was moved to another one. -/
def afterMove (file : OpenFile) (origin destination : Location) : OpenFile :=
  match file with
  | placed location =>
    if origin.isPrefixOf location then placed (destination ++ location.drop origin.length)
    else file
  | removed _ => file

end OpenFile

namespace Stream

/-- The size of the file. -/
def sizeIn (stream : Stream) (tree : Tree) : Nat := (stream.file.contentIn tree).length

/-- The stream at the end of its file. -/
def atEnd (stream : Stream) (tree : Tree) : Stream :=
  { stream with position := stream.sizeIn tree }

/-- A content with bytes written over it from a position on. A gap before them is filled with
zeros. -/
def overwritten (content : List UInt8) (position : Nat) (bytes : List UInt8) : List UInt8 :=
  content.take position ++ List.replicate (position - content.length) 0 ++ bytes ++
    content.drop (position + bytes.length)

/-- Writes bytes to the file. -/
def write (stream : Stream) (tree : Tree) (bytes : List UInt8) : Stream × Tree :=
  let content := stream.file.contentIn tree
  let start := if stream.isAppending then content.length else stream.position
  let written := overwritten content start bytes
  let moved := { stream with position := start + bytes.length }
  match stream.file with
  | .placed location => (moved, tree.insert location (.file written))
  | .removed _ => ({ moved with file := .removed written }, tree)

end Stream

namespace Tree

/-- Opens a file as a stream. -/
def openStream (tree : Tree) (path : Text) (mode : OpenMode) : Except Fault (Stream × Tree) :=
  match tree.locate path, tree.openFile path mode with
  | .ok location, .ok opened =>
    let isAppending := mode.action == .append
    let stream : Stream := { file := .placed location, position := 0, isAppending }
    .ok (if isAppending then stream.atEnd opened else stream, opened)
  | .error kind, _ => .error { kind, path }
  | _, .error fault => .error fault

/-- The path leads to the open file. -/
def leadsTo (tree : Tree) (path : Text) (file : OpenFile) : Bool :=
  match tree.locate path with
  | .ok location => (tree.node? location).isSome && file == .placed location
  | .error _ => false

end Tree
end Files
end PackageRepos
