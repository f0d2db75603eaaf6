import PackageRepos.Workspace.Loading
import PackageRepos.Workspace.Options
import PackageRepos.Workspace.Saving

/-!
# Operations

Everything that can be asked of a workspace, or happen to it, and what a run of operations leads to.
-/

namespace PackageRepos
namespace Workspace

/-- What can be asked of a workspace, or happen to its tree. -/
inductive Operation where
  | parse (number : Nat) (name : Text)
  | loadDirectory (number : Nat) (directory : Text) (suffix : Value)
  | loadConfigured (number : Nat)
  | removeFile (number file : Nat)
  /-- The removal of a file that was never loaded, such as a copy of a loaded one. -/
  | removeStranger (number : Nat) (stranger : LoadedFile)
  | set (handle : Nat) (argument : OptionArgument) (value : Value)
  | saveFile (file : Nat) (path : Option Text) (mishap : Option Files.Mishap := none)
  | save (number : Nat) (mishaps : List (Option Files.Mishap) := [])
  /-- A catalog hands out a copy of its lists. -/
  | view (number : Nat)
  /-- A copy that was handed out is cleared. -/
  | clearView (index : Nat)
  /-- Files change by other hands. -/
  | replaceTree (tree : Files.Tree)

/-- The removal of a file that no catalog lists: the file is at hand for the time of the call. -/
def removeStranger (workspace : Workspace) (number : Nat) (stranger : LoadedFile) :
    Outcome (List Nat) :=
  let widened := { workspace with files := workspace.files ++ [stranger] }
  let (outcome, after) := widened.removeFile number workspace.files.length
  (outcome, { after with files := after.files.take workspace.files.length })

/-- Hands out a copy of a catalog. -/
def view (workspace : Workspace) (number : Nat) : Workspace :=
  { workspace with views := workspace.views ++ [workspace.catalog number] }

/-- Clears a copy that was handed out. -/
def clearView (workspace : Workspace) (index : Nat) : Workspace :=
  { workspace with views := workspace.views.set index {} }

/-- The workspace after an operation, whether it succeeds or fails. -/
def perform (workspace : Workspace) : Operation → Workspace
  | .parse number name => (workspace.parse number name).2
  | .loadDirectory number directory suffix => (workspace.loadDirectory number directory suffix).2
  | .loadConfigured number => (workspace.loadConfigured number).2
  | .removeFile number file => (workspace.removeFile number file).2
  | .removeStranger number stranger => (workspace.removeStranger number stranger).2
  | .set handle argument value =>
    match workspace.entryAt? handle with
    | some entry => (workspace.set entry argument value).2
    | none => workspace
  | .saveFile file path mishap =>
    match workspace.fileAt? file with
    | some loaded => (workspace.saveFile loaded path mishap).2
    | none => workspace
  | .save number mishaps => (workspace.save number mishaps).2
  | .view number => workspace.view number
  | .clearView index => workspace.clearView index
  | .replaceTree tree => { workspace with tree }

/-- The workspace after operations, one after the other. -/
def run (workspace : Workspace) (operations : List Operation) : Workspace :=
  operations.foldl perform workspace

end Workspace
end PackageRepos
