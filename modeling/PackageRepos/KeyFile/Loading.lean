import PackageRepos.Event
import PackageRepos.Failure
import PackageRepos.Folding
import PackageRepos.KeyFile.Comments

/-!
# Loading key files

A key file is loaded from a text that names its source, or from a file of a tree, whose
continuation lines are folded first. Loading reports what it did.
-/

namespace PackageRepos
namespace KeyFile

/-- The outcome of loading, with the events it reports. -/
abbrev Loaded := Except RepoError KeyFile × List Event

/-- The name of the source of a text that has none. -/
def defaultSource : Text := Text.of "<string>"

/-- The key file that a text describes. -/
def load (text source : Text) : Loaded :=
  match parse text with
  | .error fault => (.error (.malformed source fault), [])
  | .ok keyFile =>
    (.ok keyFile, [.parsed source keyFile.groupNames.length keyFile.commentCount])

/-- The number of lines of a text. -/
def lineCount (text : Text) : Nat := text.count '\n' + 1

/-- The key file in a file of a tree. -/
def loadFile (tree : Files.Tree) (path : Files.Path) : Except Failure KeyFile × List Event :=
  let source := path.toText
  match tree.readText source with
  | .error fault => (.error (.unreadable source fault), [])
  | .ok text =>
    let folded := Folding.fold text
    let (loaded, events) := load folded source
    (loaded.mapError .error, .folded source (lineCount text) (lineCount folded) :: events)

end KeyFile
end PackageRepos
