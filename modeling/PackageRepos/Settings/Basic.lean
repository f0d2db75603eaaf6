import PackageRepos.Document.Printer
import PackageRepos.Event
import PackageRepos.Failure
import PackageRepos.Settings.Packaged
import PackageRepos.Value.Comparison

/-!
# Settings

The settings of every section are the packaged document with the keys of the user's document put in
place of its own. A user's file that cannot be read, or is no document, is reported and leaves the
packaged settings as they are; a user's document of another shape than a mapping is taken as a list
of pairs, and fails where it is none.
-/

namespace PackageRepos

/-- The settings by section, and in every section by key. -/
structure Settings where
  sections : OrderedMap Text (OrderedMap Text Value) := ∅
deriving Repr

namespace Settings

/-- The settings of a section, or none. -/
def sectionOf (settings : Settings) (name : String) : OrderedMap Text Value :=
  (settings.sections.get? (Text.of name)).getD ∅

/-- A key of a mapping as text. -/
def keyText : Value → Text
  | .text key => key
  | other => Document.print other

/-- The pair that an item of a list stands for. -/
def pairOf (index : Nat) (item : Value) : Except ArgumentFault (Value × Value) :=
  match item with
  | .text [key, value] => .ok (.text [key], .text [value])
  | .text other => .error (.pairOfLength index other.length)
  | .mapping [(key, _), (value, _)] => .ok (.text key, .text value)
  | .mapping other => .error (.pairOfLength index other.length)
  | .list [key, value] =>
    match key.unkeyable? with
    | some kind => .error (.unkeyable kind)
    | none => .ok (key, value)
  | .list other => .error (.pairOfLength index other.length)
  | _ => .error (.pairNotASequence index)

/-- The pairs that a list stands for, the first of which has the given index. -/
def pairsFrom (index : Nat) : List Value → Except ArgumentFault (List (Value × Value))
  | [] => .ok []
  | item :: rest =>
    match pairOf index item with
    | .error fault => .error fault
    | .ok pair => (pairsFrom (index + 1) rest).map (pair :: ·)

/-- Sets the value of a key. A key that equals an earlier one is that key. -/
def putPair (pairs : List (Value × Value)) (pair : Value × Value) : List (Value × Value) :=
  if pairs.any fun other => other.1.same pair.1 then
    pairs.map fun other => if other.1.same pair.1 then (other.1, pair.2) else other
  else pairs ++ [pair]

/-- The entries that a list of pairs stands for. -/
def entriesOfPairs (items : List Value) : Except ArgumentFault (List (Text × Value)) :=
  (pairsFrom 0 items).map fun pairs =>
    (pairs.foldl putPair []).map fun (key, value) => (keyText key, value)

/-- The entries that a document adds to a section. A document that does not count as true adds
none. -/
def additions (document : Value) : Except ArgumentFault (List (Text × Value)) :=
  if document.isTrue then
    match document with
    | .mapping entries => .ok entries
    | .list items => entriesOfPairs items
    | .text text => entriesOfPairs (text.map fun char => .text [char])
    | other => .error (.notIterable other.kindName)
  else .ok []

/-- Where settings come from. -/
structure Source where
  tree : Files.Tree
  /-- The directory of the user's files. -/
  userDirectory : Files.Path
  /-- The file of every section. -/
  filenames : OrderedMap Text Text
  /-- What reads the packaged files and the user's. -/
  parser : Document.Parser

/-- The file of every section, unless others are asked for. -/
def defaultFilenames : OrderedMap Text Text :=
  .ofList
    [(Text.of "logging", Text.of "logging.yml"), (Text.of "repoconf", Text.of "repoconf.yml")]

/-- The outcome of a step that reports events. -/
abbrev Reported (α : Type) := Except Failure α × List Event

/-- The packaged settings of a section. -/
def loadPackaged (source : Source) (part filename : Text) :
    Reported (OrderedMap Text Value × Status) :=
  if filename.contains '\x00' then
    (.error (.file { kind := .malformedPath, path := filename }), [])
  else
    match packagedText? filename with
    | none => (.ok (∅, .missing), [.packagedMissing part filename])
    | some text =>
      match source.parser.read text with
      | .error fault => (.ok (∅, .invalid), [.packagedInvalid part filename fault])
      | .ok document =>
        match additions document with
        | .error fault => (.error (.argument fault), [])
        | .ok added => (.ok (OrderedMap.ofList added, .loaded), [])

/-- The document in a user's file. A file that is not there, or that is reported as unreadable,
adds nothing. -/
def userDocument (source : Source) (filename : Text) : Reported (Option Value) :=
  let path := (source.userDirectory.append (.ofText filename)).toText
  match source.tree.examine path with
  | .error fault => (.error (.file fault), [])
  | .ok none => (.ok none, [])
  | .ok (some _) =>
    match source.tree.readText path with
    | .error (.file fault) => (.ok none, [.userUnreadable path (.file fault)])
    | .error (.undecodable fault) => (.error (.undecodable fault), [])
    | .ok text =>
      match source.parser.read text with
      | .ok document => (.ok (some document), [])
      | .error fault => (.ok none, [.userUnreadable path (.document fault)])

/-- The packaged settings of a section with the user's document put in place. -/
def loadUser (source : Source) (filename : Text) (entries : OrderedMap Text Value)
    (status : Status) : Reported (OrderedMap Text Value × Status) :=
  match userDocument source filename with
  | (.error failure, events) => (.error failure, events)
  | (.ok none, events) => (.ok (entries, status), events)
  | (.ok (some document), events) =>
    match additions document with
    | .error fault => (.error (.argument fault), events)
    | .ok added =>
      (.ok (entries.insertAll added, if status = .loaded then .overridden else status), events)

/-- The settings of one section. -/
def loadSection (source : Source) (part filename : Text) :
    Reported (OrderedMap Text Value × Status) :=
  match loadPackaged source part filename with
  | (.error failure, events) => (.error failure, events)
  | (.ok (entries, status), events) =>
    let (loaded, moreEvents) := loadUser source filename entries status
    (loaded, events ++ moreEvents)

/-- The settings of sections, one after the other; the first failure ends the loading. -/
def loadSections (source : Source) :
    List (Text × Text) → Reported (List (Text × OrderedMap Text Value × Status))
  | [] => (.ok [], [])
  | (part, filename) :: rest =>
    match loadSection source part filename with
    | (.error failure, events) => (.error failure, events)
    | (.ok loaded, events) =>
      let (others, moreEvents) := loadSections source rest
      (others.map ((part, loaded) :: ·), events ++ moreEvents)

/-- The settings of all sections. -/
def load (source : Source) : Reported Settings :=
  match loadSections source source.filenames.toList with
  | (.error failure, events) => (.error failure, events)
  | (.ok loaded, events) =>
    let statuses := loaded.map fun (part, _, status) => (part, status)
    let sections := .ofList (loaded.map fun (part, entries, _) => (part, entries))
    (.ok { sections }, events ++ [.settingsLoaded statuses])

/-- Settings that have been loaded are kept; empty ones are loaded again. -/
def ensureLoaded (settings : Settings) (source : Source) : Reported Settings :=
  if settings.sections.toList.isEmpty then load source else (.ok settings, [])

/-- The settings that all users share, and how often they were made anew. -/
structure Cache where
  current : Option Settings := none
  made : Nat := 0
deriving Repr

namespace Cache

/-- The shared settings, which are made when they are first asked for. -/
def obtain (cache : Cache) (source : Source) : Reported Settings × Cache :=
  match cache.current with
  | some settings => ((.ok settings, []), cache)
  | none =>
    match load source with
    | (.ok settings, events) =>
      ((.ok settings, events), { current := some settings, made := cache.made + 1 })
    | (.error failure, events) => ((.error failure, events), cache)

/-- Forgets the shared settings. -/
def reset (cache : Cache) : Cache := { cache with current := none }

end Cache
end Settings
end PackageRepos
