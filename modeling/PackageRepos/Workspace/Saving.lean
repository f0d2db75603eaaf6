import PackageRepos.KeyFile.Printer
import PackageRepos.Workspace.Basic

/-!
# Saving files

A file is written under a temporary name beside its target and then moved over it.
-/

namespace PackageRepos
namespace Workspace

/-- What the temporary name ends with. -/
def temporaryEnding : Text := Text.of ".tmp"

/-- Writes a text to a file by way of a temporary sibling. -/
def replaceText (tree : Files.Tree) (temporary target text : Text)
    (mishap : Option Files.Mishap := none) : Except Files.WriteFault Unit × Files.Tree :=
  match tree.writeText temporary text mishap with
  | (.ok (), written) => written.moveFile temporary target mishap
  | failed => failed

/-- Saves a loaded file under a path, which is the result. -/
def saveAs (workspace : Workspace) (file : LoadedFile) (target : Files.Path)
    (mishap : Option Files.Mishap := none) : Outcome Files.Path :=
  let targetText := target.toText
  match target.withName? ((target.name?.getD []) ++ temporaryEnding) with
  | none => (.error (.namelessPath targetText), workspace)
  | some temporary =>
    let (replaced, tree) :=
      replaceText workspace.tree temporary.toText targetText file.keyFile.print mishap
    let after := { workspace with tree }
    match replaced with
    | .error fault => (.error (.unwritable targetText fault), after)
    | .ok () => (.ok target, after.report [.savedFile targetText])

/-- Saves a loaded file under the given path, or under its own. -/
def saveFile (workspace : Workspace) (file : LoadedFile) (path : Option Text)
    (mishap : Option Files.Mishap := none) : Outcome Files.Path :=
  workspace.saveAs file ((path.map Files.Path.ofText).getD file.path) mishap

/-- Saves files under their own paths, up to the first failure. The mishaps, if there are any, come
in the order of the files. -/
def saveFiles (workspace : Workspace) (mishaps : List (Option Files.Mishap)) :
    List LoadedFile → Outcome (List Files.Path)
  | [] => (.ok [], workspace)
  | file :: rest =>
    match workspace.saveAs file file.path (mishaps.headD none) with
    | (.error failure, after) => (.error failure, after)
    | (.ok path, after) =>
      let (further, final) := after.saveFiles mishaps.tail rest
      (further.map (path :: ·), final)

/-- Saves every file of a catalog under its own path. -/
def save (workspace : Workspace) (number : Nat) (mishaps : List (Option Files.Mishap) := []) :
    Outcome (List Files.Path) :=
  workspace.saveFiles mishaps ((workspace.catalog number).files.filterMap workspace.fileAt?)

end Workspace
end PackageRepos
