import PackageRepos.Files.Tree
import PackageRepos.Text.Utf8

/-!
# Text files

Files whose bytes are the UTF-8 code of a text. Reading takes any form of newline for a newline;
writing changes nothing. A mishap may keep a text from being written, or from being moved to its
place, for reasons that lie neither in the tree nor in the characters.
-/

namespace PackageRepos
namespace Files

/-- Why a text file cannot be read. -/
inductive ReadFault where
  | file (fault : Fault)
  | undecodable (fault : Utf8.Fault)
deriving DecidableEq, Repr

/-- The wording of a fault. -/
def ReadFault.message : ReadFault → Text
  | file fault => fault.message
  | undecodable fault => fault.message

/-- Why a text cannot be written. -/
inductive WriteFault where
  | file (fault : Fault)
  | uncodable (fault : Utf8.Uncodable)
deriving DecidableEq, Repr

/-- What keeps a text from being written and moved to its place. -/
inductive Mishap where
  /-- The file is not opened. -/
  | unopened (fault : SystemFault)
  /-- The writing stops after so many bytes. -/
  | stopped (fault : SystemFault) (count : Nat)
  /-- The text holds what has no code, so that nothing of it is written. -/
  | uncodable (fault : Utf8.Uncodable)
  /-- The file is not moved. -/
  | unmoved (fault : SystemFault)
deriving DecidableEq, Repr

namespace Tree

/-- The text of a file, as it is stored. -/
def readExact (tree : Tree) (path : Text) : Except ReadFault Text :=
  match tree.read path with
  | .error fault => .error (.file fault)
  | .ok content =>
    match Utf8.decode content with
    | .ok text => .ok text
    | .error fault => .error (.undecodable fault)

/-- The text of a file. -/
def readText (tree : Tree) (path : Text) : Except ReadFault Text :=
  (tree.readExact path).map Text.unifyNewlines

/-- Writes a text file, in place of the one that is there. A file is empty when it is opened. -/
def writeText (tree : Tree) (path text : Text) (mishap : Option Mishap := none) :
    Except WriteFault Unit × Tree :=
  match tree.fileLocation path with
  | .error kind => (.error (.file { kind, path }), tree)
  | .ok location =>
    let holding := fun content => tree.insert location (.file content)
    match mishap with
    | some (.unopened fault) => (.error (.file { kind := .system fault, path }), tree)
    | some (.stopped fault count) =>
      (.error (.file { kind := .system fault, path := none }),
        holding ((Utf8.encode text).take count))
    | some (.uncodable fault) => (.error (.uncodable fault), holding [])
    | some (.unmoved _) | none => (.ok (), holding (Utf8.encode text))

/-- Moves a file, or leaves it where it is. -/
def moveFile (tree : Tree) (source target : Text) (mishap : Option Mishap := none) :
    Except WriteFault Unit × Tree :=
  match mishap, tree.move source target with
  | some (.unmoved fault), _ =>
    (.error (.file { kind := .system fault, path := source, target := some target }), tree)
  | _, .error fault => (.error (.file fault), tree)
  | _, .ok moved => (.ok (), moved)

end Tree
end Files
end PackageRepos
