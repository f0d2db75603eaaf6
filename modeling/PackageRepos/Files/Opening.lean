import PackageRepos.Files.Tree

/-!
# Opening files

A mode tells what a file is opened for. Its letters stand in any order, none of them twice, and
exactly one of them tells what becomes of the file.
-/

namespace PackageRepos
namespace Files

/-- What becomes of a file that is opened. -/
inductive OpenAction where
  /-- It must be there. -/
  | read
  /-- It is made anew. -/
  | write
  /-- It must not be there. -/
  | create
  /-- It is made unless it is there, and added to. -/
  | append
deriving DecidableEq, Repr

/-- What a file is opened for. -/
structure OpenMode where
  action : OpenAction
  /-- Reading and writing are both allowed. -/
  isUpdating : Bool
  isBinary : Bool
deriving DecidableEq, Repr

/-- Why a file cannot be opened in a way. -/
inductive OpenModeFault where
  | malformed (parameter : String)
  | unknown (mode : Text)
  | textAndBinary
  | notOneAction
  /-- A file of bytes takes no such setting. -/
  | binaryWith (parameter : String)
deriving DecidableEq, Repr

/-- The wording of a fault. -/
def OpenModeFault.message : OpenModeFault → Text
  | malformed _ => Text.of "embedded null character"
  | unknown mode => Text.of "invalid mode: '" ++ mode ++ ['\'']
  | textAndBinary => Text.of "can't have text and binary mode at once"
  | notOneAction =>
    Text.of "Must have exactly one of create/read/write/append mode and at most one plus"
  | binaryWith parameter => Text.of s!"binary mode doesn't take an {parameter} argument"

namespace OpenMode

/-- The letters of the actions. -/
def actions : List (Char × OpenAction) :=
  [('r', .read), ('w', .write), ('x', .create), ('a', .append)]

/-- All letters of modes. -/
def letters : Text := Text.of "rwxa+tb"

/-- Every item occurs once. -/
def hasNoRepeats : Text → Bool
  | [] => true
  | char :: rest => !rest.contains char && hasNoRepeats rest

/-- The mode that a text describes. -/
def ofText (mode : Text) : Except OpenModeFault OpenMode :=
  if mode.contains '\x00' then .error (.malformed "mode")
  else if !(mode.all letters.contains && hasNoRepeats mode) then .error (.unknown mode)
  else if mode.contains 't' && mode.contains 'b' then .error .textAndBinary
  else
    match mode.filterMap fun letter => actions.lookup letter with
    | [action] =>
      .ok { action, isUpdating := mode.contains '+', isBinary := mode.contains 'b' }
    | _ => .error .notOneAction

/-- The file may be written to. -/
def isWritable (mode : OpenMode) : Bool := mode.action != .read || mode.isUpdating

end OpenMode

namespace Tree

/-- What stands at the place of a file that is opened, or why it cannot be opened. -/
def openedNode (found : Option Node) (action : OpenAction) : Except FaultKind Node :=
  match found, action with
  | some _, .create => .error .alreadyExists
  | some .directory, _ => .error .isADirectory
  | none, .read => .error .notFound
  | some (.file content), .read | some (.file content), .append => .ok (.file content)
  | _, _ => .ok (.file [])

/-- Opens a file: makes it where the mode asks for that, and empties it where the mode makes it
anew. -/
def openFile (tree : Tree) (path : Text) (mode : OpenMode) : Except Fault Tree :=
  match tree.locate path with
  | .error kind => .error { kind, path }
  | .ok location =>
    match openedNode (tree.node? location) mode.action with
    | .error kind => .error { kind, path }
    | .ok node => .ok (tree.insert location node)

end Tree
end Files
end PackageRepos
