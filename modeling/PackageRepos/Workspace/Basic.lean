import PackageRepos.KeyFile.Loading
import PackageRepos.Settings.Basic

/-!
# Workspaces

A workspace holds all loaded files and all entries that were ever made, each under a handle that
never changes. Catalogs list some of them, in load order. An entry knows its file until the file is
removed from its catalog. Entries are told apart by their handle, never by their name, so that two
files may declare the same section.
-/

namespace PackageRepos

/-- A loaded repository file. -/
structure LoadedFile where
  path : Files.Path
  keyFile : KeyFile
deriving DecidableEq, Repr

/-- A section of a loaded file. -/
structure Entry where
  /-- The name of the section. -/
  id : Text
  /-- The handle of the file; absent once the file was removed. -/
  file : Option Nat
deriving DecidableEq, Repr

/-- An ordered collection of loaded files and of the entries they declare, by handle. -/
structure Catalog where
  files : List Nat := []
  entries : List Nat := []
deriving DecidableEq, Repr

/-- Loaded files, entries and catalogs, with all they depend on. -/
structure Workspace where
  tree : Files.Tree := {}
  /-- The loaded files, by handle. -/
  files : List LoadedFile := []
  /-- The entries, by handle. -/
  entries : List Entry := []
  /-- The catalogs, by number. -/
  catalogs : OrderedMap Nat Catalog := ∅
  /-- The copies of catalogs that were handed out, the first one first. -/
  views : List Catalog := []
  /-- The directory of the user's settings. -/
  userDirectory : Files.Path := {}
  /-- The files of the settings, by section. -/
  filenames : OrderedMap Text Text := Settings.defaultFilenames
  settings : Settings.Cache := {}
  /-- What reads the files of the settings. -/
  parser : Document.Parser := default
  /-- The events reported so far. -/
  journal : List Event := []

/-- The outcome of an operation on a workspace, which may change it even when it fails. -/
abbrev Outcome (α : Type) := Except Failure α × Workspace

namespace LoadedFile

/-- The file as messages show it. -/
def display (file : LoadedFile) : Text :=
  Text.of "<RepoFile " ++ file.path.toText.quoted ++ ['>']

end LoadedFile

namespace Workspace

/-- Adds events to the journal. -/
def report (workspace : Workspace) (events : List Event) : Workspace :=
  { workspace with journal := workspace.journal ++ events }

/-- A catalog; one that was never used is empty. -/
def catalog (workspace : Workspace) (number : Nat) : Catalog :=
  (workspace.catalogs.get? number).getD {}

/-- Replaces a catalog. -/
def setCatalog (workspace : Workspace) (number : Nat) (catalog : Catalog) : Workspace :=
  { workspace with catalogs := workspace.catalogs.insert number catalog }

/-- The loaded file with a handle. -/
def fileAt? (workspace : Workspace) (handle : Nat) : Option LoadedFile := workspace.files[handle]?

/-- The entry with a handle. -/
def entryAt? (workspace : Workspace) (handle : Nat) : Option Entry := workspace.entries[handle]?

/-- Replaces the key file of a loaded file. -/
def setKeyFile (workspace : Workspace) (handle : Nat) (keyFile : KeyFile) : Workspace :=
  { workspace with files := workspace.files.modify handle fun file => { file with keyFile } }

/-- The file of an entry that is attached to one. -/
def fileOf? (workspace : Workspace) (entry : Entry) : Option LoadedFile :=
  entry.file.bind workspace.fileAt?

/-- The entry as messages show it. -/
def displayEntry (workspace : Workspace) (entry : Entry) : Text :=
  let source := match workspace.fileOf? entry with
    | some file => file.path.toText
    | none => Text.of "detached"
  Text.of "<RepoConf " ++ entry.id.quoted ++ Text.of " (" ++ source ++ Text.of ")>"

/-- The handles of the entries of a catalog that have a name, in load order. -/
def find (workspace : Workspace) (number : Nat) (id : Text) : List Nat :=
  (workspace.catalog number).entries.filter fun handle =>
    (workspace.entryAt? handle).any fun entry => entry.id == id

end Workspace
end PackageRepos
