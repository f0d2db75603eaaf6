import PackageRepos.Proofs.Files.Malformed
import PackageRepos.Proofs.Settings.Overriding
import PackageRepos.Proofs.Workspace.Steps

/-!
# Loading in order

To load directories is to parse their files one after the other, in the order of their listings, up
to the first failure. What was loaded before a failure stays, and nothing else is added. Failures
are errors of this library, but for two: a path that is malformed, and a configured directory whose
name is too long for the directory to be looked up.
-/

namespace PackageRepos
namespace Workspace

/-! ## Workspaces that agree -/

/-- The workspaces have the same files, entries and catalogs, and the same tree. -/
structure Agrees (workspace other : Workspace) : Prop extends SameStores workspace other where
  tree : other.tree = workspace.tree

theorem Agrees.refl (workspace : Workspace) : Agrees workspace workspace :=
  ⟨⟨rfl, rfl, rfl⟩, rfl⟩

theorem Agrees.symm {workspace other : Workspace} (agrees : Agrees workspace other) :
    Agrees other workspace :=
  ⟨⟨agrees.files.symm, agrees.entries.symm, agrees.catalogs.symm⟩, agrees.tree.symm⟩

theorem Agrees.trans {workspace between after : Workspace} (first : Agrees workspace between)
    (second : Agrees between after) : Agrees workspace after :=
  ⟨first.toSameStores.trans second.toSameStores, second.tree.trans first.tree⟩

theorem agrees_report (workspace : Workspace) (events : List Event) :
    Agrees workspace (workspace.report events) :=
  ⟨⟨rfl, rfl, rfl⟩, rfl⟩

theorem agrees_reportFailure (workspace : Workspace) (path : Text) (failure : Failure) :
    Agrees workspace (workspace.reportFailure path failure) := by
  unfold reportFailure
  split
  · exact agrees_report _ _
  · exact .refl _

/-- A file is parsed with the same outcome in workspaces that agree. -/
theorem Agrees.parse {workspace other : Workspace} (agrees : Agrees workspace other) (number : Nat)
    (path : Text) :
    (other.parse number path).1 = (workspace.parse number path).1 ∧
      Agrees (workspace.parse number path).2 (other.parse number path).2 := by
  obtain ⟨⟨files, entries, catalogs⟩, tree⟩ := agrees
  simp only [Workspace.parse, tree]
  generalize KeyFile.loadFile workspace.tree (Files.Path.ofText path) = outcome
  obtain ⟨outcome, events⟩ := outcome
  cases outcome with
  | error failure => exact ⟨rfl, ⟨files, entries, catalogs⟩, tree⟩
  | ok keyFile =>
    refine ⟨by simp [register, report, entries], ⟨?_, ?_, ?_⟩, tree⟩ <;>
      simp [register, report, setCatalog, catalog, files, entries, catalogs]

theorem agrees_of_parse_eq_error {workspace after : Workspace} {number : Nat} {path : Text}
    {failure : Failure} (failed : workspace.parse number path = (.error failure, after)) :
    Agrees workspace after := by
  simp only [parse] at failed
  split at failed
  · obtain ⟨-, rfl⟩ := Prod.mk.inj failed
    exact agrees_report _ _
  · simp at failed

/-! ## Files parsed in order -/

/-- The files were parsed one after the other, all of them with success. -/
inductive Parses (number : Nat) : Workspace → List Text → List (List Nat) → Workspace → Prop
  | done (workspace : Workspace) : Parses number workspace [] [] workspace
  | next {workspace between after : Workspace} {path : Text} {paths : List Text}
      {handles : List Nat} {lists : List (List Nat)}
      (first : workspace.parse number path = (.ok handles, between))
      (later : Parses number between paths lists after) :
      Parses number workspace (path :: paths) (handles :: lists) after

/-- What the loading of directories comes to next. -/
inductive Attempt where
  | file (path : Text)
  /-- A directory that is there but cannot be listed. -/
  | unopened (directory : Text) (fault : Files.Fault)
  /-- A directory that cannot be looked up. -/
  | unknown (fault : Files.Fault)

/-- The outcome of what comes next. -/
def attempt (workspace : Workspace) (number : Nat) : Attempt → Outcome (List Nat)
  | .file path => workspace.parse number path
  | .unopened directory fault => (.error (.unopenable directory fault), workspace)
  | .unknown fault => (.error (.file fault), workspace)

/-- The attempts were made in order. Either all of them were files that were parsed, and the result
is the handles of all their entries; or the attempt after some files failed, and nothing was done
that these files did not do. -/
inductive InOrder (number : Nat) (workspace : Workspace) (attempts : List Attempt) :
    Outcome (List Nat) → Prop
  | completed {paths : List Text} {lists : List (List Nat)} {reached after : Workspace}
      (all : attempts = paths.map .file) (parsed : Parses number workspace paths lists reached)
      (same : Agrees reached after) : InOrder number workspace attempts (.ok lists.flatten, after)
  | cut {paths : List Text} {stopping : Attempt} {rest : List Attempt} {lists : List (List Nat)}
      {reached after : Workspace} {failure : Failure}
      (split : attempts = paths.map .file ++ stopping :: rest)
      (parsed : Parses number workspace paths lists reached)
      (failed : (reached.attempt number stopping).1 = .error failure)
      (same : Agrees reached after) : InOrder number workspace attempts (.error failure, after)

theorem Parses.of_agrees {number : Nat} {workspace other reached : Workspace} {paths : List Text}
    {lists : List (List Nat)} (parsed : Parses number workspace paths lists reached)
    (agrees : Agrees workspace other) :
    ∃ final, Parses number other paths lists final ∧ Agrees reached final := by
  induction parsed generalizing other with
  | done => exact ⟨other, .done other, agrees⟩
  | @next workspace between _ path _ handles _ first _ ih =>
    obtain ⟨same, further⟩ := agrees.parse number path
    rw [first] at same further
    obtain ⟨final, later, final_agrees⟩ := ih further
    have first_again : other.parse number path = (.ok handles, (other.parse number path).2) :=
      Prod.ext same rfl
    exact ⟨final, .next first_again later, final_agrees⟩

theorem Agrees.attempt {workspace other : Workspace} (agrees : Agrees workspace other)
    (number : Nat) (stopping : Attempt) :
    (other.attempt number stopping).1 = (workspace.attempt number stopping).1 := by
  cases stopping with
  | file path => exact (agrees.parse number path).1
  | unopened directory fault => rfl
  | unknown fault => rfl

namespace InOrder

variable {number : Nat} {workspace : Workspace} {attempts : List Attempt}

theorem of_agrees {other : Workspace} {outcome : Outcome (List Nat)}
    (ordered : InOrder number workspace attempts outcome) (agrees : Agrees workspace other) :
    InOrder number other attempts outcome := by
  cases ordered with
  | completed all parsed same =>
    obtain ⟨final, parsed_again, final_agrees⟩ := parsed.of_agrees agrees
    exact .completed all parsed_again (final_agrees.symm.trans same)
  | cut split parsed failed same =>
    obtain ⟨final, parsed_again, final_agrees⟩ := parsed.of_agrees agrees
    exact .cut split parsed_again ((final_agrees.attempt number _).trans failed)
      (final_agrees.symm.trans same)

theorem agrees {result : Except Failure (List Nat)} {after final : Workspace}
    (ordered : InOrder number workspace attempts (result, after)) (same : Agrees after final) :
    InOrder number workspace attempts (result, final) := by
  cases ordered with
  | completed all parsed before => exact .completed all parsed (before.trans same)
  | cut split parsed failed before => exact .cut split parsed failed (before.trans same)

theorem nothing (workspace : Workspace) : InOrder number workspace [] (.ok [], workspace) :=
  .completed (List.map_nil).symm (.done workspace) (.refl workspace)

/-- A file that was parsed comes before what follows. -/
theorem file {between after : Workspace} {path : Text} {handles : List Nat}
    {result : Except Failure (List Nat)}
    (first : workspace.parse number path = (.ok handles, between))
    (later : InOrder number between attempts (result, after)) :
    InOrder number workspace (.file path :: attempts) (result.map (handles ++ ·), after) := by
  cases later with
  | completed all parsed same =>
    exact .completed (by rw [all, List.map_cons]) (.next first parsed) same
  | cut split parsed failed same =>
    exact .cut (by rw [split, List.map_cons, List.cons_append]) (.next first parsed) failed same

/-- Files that were parsed come before what follows. -/
theorem of_parses {reached after : Workspace} {paths : List Text} {lists : List (List Nat)}
    {result : Except Failure (List Nat)}
    (parsed : Parses number workspace paths lists reached)
    (later : InOrder number reached attempts (result, after)) :
    InOrder number workspace (paths.map .file ++ attempts)
      (result.map (lists.flatten ++ ·), after) := by
  induction parsed with
  | done => cases result <;> exact later
  | next first _ ih =>
    have ordered := file first (ih later)
    cases result with
    | error failure => exact ordered
    | ok further =>
      simp only [Except.map, List.flatten_cons, List.append_assoc] at ordered ⊢
      exact ordered

/-- Attempts that succeeded come before what follows. -/
theorem append {between after : Workspace} {back : List Attempt} {handles : List Nat}
    {result : Except Failure (List Nat)}
    (first : InOrder number workspace attempts (.ok handles, between))
    (later : InOrder number between back (result, after)) :
    InOrder number workspace (attempts ++ back) (result.map (handles ++ ·), after) := by
  cases first with
  | completed all parsed same =>
    rw [all]
    exact of_parses parsed (later.of_agrees same.symm)

/-- What would have followed a failure is not attempted. -/
theorem append_of_error {after : Workspace} {failure : Failure}
    (failed : InOrder number workspace attempts (.error failure, after)) (back : List Attempt) :
    InOrder number workspace (attempts ++ back) (.error failure, after) := by
  cases failed with
  | cut split parsed failed same =>
    exact .cut (by rw [split, List.append_assoc]; rfl) parsed failed same

end InOrder

/-! ## Directories -/

/-- The files among the names in a directory whose names end with the suffix. -/
def matching (ending directory : Text) (names : List Text) : List Attempt :=
  (names.filter (Text.endsWith · ending)).map fun name =>
    .file (Files.Path.entryText directory name)

/-- What the loading of a directory comes to. -/
def listing (tree : Files.Tree) (ending directory : Text) : List Attempt :=
  match tree.entries directory with
  | .ok names => matching ending directory names
  | .error fault => [.unopened directory fault]

/-- What the loading of a configured directory comes to: nothing when there is no such directory. -/
def configuredListing (tree : Files.Tree) (ending directory : Text) : List Attempt :=
  match tree.examine (Files.Path.ofText directory).toText with
  | .ok (some .directory) => listing tree ending directory
  | .ok _ => []
  | .error fault => [.unknown fault]

/-- The settings list these directories, and files whose names end like this. -/
def Configures (workspace : Workspace) (directories : List Text) (ending : Text) : Prop :=
  ∃ settings, (workspace.settings.obtain workspace.settingsSource).1.1 = .ok settings ∧
    let repositories := settings.sectionOf "repoconf"
    let suffix := (repositories.get? (Text.of "repo_file_suffix")).getD .absent
    listedDirectories ((repositories.get? (Text.of "reposdir")).getD .absent) =
        .ok (directories.map .text) ∧
      (if suffix.isTrue then suffix else defaultSuffix) = .text ending

theorem inOrder_loadNames (workspace : Workspace) (number : Nat) (ending directory : Text)
    (names : List Text) :
    InOrder number workspace (matching ending directory names)
      (workspace.loadNames number directory (.text ending) names) := by
  induction names generalizing workspace with
  | nil => exact .nothing workspace
  | cons name rest ih =>
    cases ends : Text.endsWith name ending with
    | false =>
      have attempts_eq : matching ending directory (name :: rest) =
          matching ending directory rest := by
        simp [matching, ends]
      rw [attempts_eq]
      unfold loadNames
      simp only [matchesSuffix, ends]
      exact ih workspace
    | true =>
      have attempts_eq : matching ending directory (name :: rest) =
          .file (Files.Path.entryText directory name) :: matching ending directory rest := by
        simp [matching, ends]
      rw [attempts_eq]
      unfold loadNames
      simp only [matchesSuffix, ends]
      split
      · rename_i failure tried failed
        have stops : (workspace.attempt number
            (.file (Files.Path.entryText directory name))).1 = .error failure :=
          congrArg Prod.fst failed
        exact .cut (List.nil_append _).symm (.done workspace) stops
          ((agrees_of_parse_eq_error failed).trans (agrees_reportFailure tried _ failure))
      · rename_i handles loaded parsed
        exact .file parsed (ih loaded)

theorem inOrder_loadDirectory (workspace : Workspace) (number : Nat) (ending directory : Text) :
    InOrder number workspace (listing workspace.tree ending directory)
      (workspace.loadDirectory number directory (.text ending)) := by
  unfold listing loadDirectory
  cases workspace.tree.entries directory with
  | error fault =>
    exact .cut (List.nil_append _).symm (.done workspace) rfl (.refl workspace)
  | ok names =>
    have ordered := inOrder_loadNames workspace number ending directory names
    simp only
    split
    · rename_i failed
      rwa [failed] at ordered
    · rename_i done
      rw [done] at ordered
      exact ordered.agrees (agrees_report _ _)

/-! ## What is left intact -/

/-- The workspace has grown: files and entries were added to it after those that it had, and to one
of its catalogs. -/
structure Grown (number : Nat) (workspace after : Workspace) : Prop where
  tree : after.tree = workspace.tree
  files : workspace.files <+: after.files
  entries : workspace.entries <+: after.entries
  listedFiles : (workspace.catalog number).files <+: (after.catalog number).files
  listedEntries : (workspace.catalog number).entries <+: (after.catalog number).entries
  others : ∀ other ≠ number, after.catalog other = workspace.catalog other

theorem Agrees.grown {workspace after : Workspace} (agrees : Agrees workspace after)
    (number : Nat) :
    Grown number workspace after := by
  have catalogs : ∀ other, after.catalog other = workspace.catalog other := fun other => by
    rw [catalog, agrees.catalogs, catalog]
  exact
    { tree := agrees.tree
      files := agrees.files ▸ List.prefix_rfl
      entries := agrees.entries ▸ List.prefix_rfl
      listedFiles := catalogs number ▸ List.prefix_rfl
      listedEntries := catalogs number ▸ List.prefix_rfl
      others := fun other _ => catalogs other }

theorem Registered.grown {workspace after : Workspace} {number : Nat} {path : Files.Path}
    {keyFile : KeyFile} {handles : List Nat}
    (registered : Registered workspace number path keyFile handles after) :
    Grown number workspace after where
  tree := registered.tree
  files := registered.files ▸ List.prefix_append _ _
  entries := registered.entries ▸ List.prefix_append _ _
  listedFiles := by simp [catalog, registered.catalogs]
  listedEntries := by simp [catalog, registered.catalogs]
  others other different := by
    simp [catalog, registered.catalogs, OrderedMap.get?_insert, different]

theorem Grown.trans {number : Nat} {workspace between after : Workspace}
    (first : Grown number workspace between) (second : Grown number between after) :
    Grown number workspace after where
  tree := second.tree.trans first.tree
  files := first.files.trans second.files
  entries := first.entries.trans second.entries
  listedFiles := first.listedFiles.trans second.listedFiles
  listedEntries := first.listedEntries.trans second.listedEntries
  others other different := (second.others other different).trans (first.others other different)

theorem Parses.grown {number : Nat} {workspace reached : Workspace} {paths : List Text}
    {lists : List (List Nat)} (parsed : Parses number workspace paths lists reached) :
    Grown number workspace reached := by
  induction parsed with
  | done workspace => exact (Agrees.refl workspace).grown number
  | next first _ ih =>
    obtain ⟨_, -, registered⟩ := registered_of_parse first
    exact registered.grown.trans ih

theorem InOrder.grown {number : Nat} {workspace : Workspace} {attempts : List Attempt}
    {outcome : Outcome (List Nat)} (ordered : InOrder number workspace attempts outcome) :
    Grown number workspace outcome.2 := by
  cases ordered with
  | completed _ parsed same => exact parsed.grown.trans (same.grown number)
  | cut _ parsed _ same => exact parsed.grown.trans (same.grown number)

/-! ## Configured directories -/

theorem inOrder_loadDirectories (workspace : Workspace) (number : Nat) (ending : Text)
    (directories : List Text) :
    InOrder number workspace (directories.flatMap (configuredListing workspace.tree ending))
      (workspace.loadDirectories number (.text ending) (directories.map .text)) := by
  induction directories generalizing workspace with
  | nil => exact .nothing workspace
  | cons directory rest ih =>
    rw [List.flatMap_cons, List.map_cons, loadDirectories]
    have skipped : InOrder number workspace
        (rest.flatMap (configuredListing workspace.tree ending))
        ((workspace.report [.skippedDirectory directory]).loadDirectories number (.text ending)
          (rest.map .text)) :=
      (ih (workspace.report _)).of_agrees (agrees_report workspace _).symm
    have ordered := inOrder_loadDirectory workspace number ending directory
    cases examined : workspace.tree.examine (Files.Path.ofText directory).toText with
    | error fault =>
      have attempts_eq : configuredListing workspace.tree ending directory = [.unknown fault] := by
        simp [configuredListing, examined]
      rw [attempts_eq]
      exact .cut (List.nil_append _).symm (.done workspace) rfl (.refl workspace)
    | ok found =>
      by_cases stands : found = some .directory
      · subst stands
        have attempts_eq : configuredListing workspace.tree ending directory =
            listing workspace.tree ending directory := by
          simp [configuredListing, examined]
        rw [attempts_eq]
        simp only
        split
        · rename_i failure tried failed
          rw [failed] at ordered
          exact ordered.append_of_error _
        · rename_i handles loaded done
          rw [done] at ordered
          have later := ih loaded
          -- Loading leaves the tree alone, so that all listings can be read off it at the start.
          rw [ordered.grown.tree] at later
          exact ordered.append later
      · have attempts_eq : configuredListing workspace.tree ending directory = [] := by
          unfold configuredListing
          rw [examined]
          split <;> simp_all
        rw [attempts_eq, List.nil_append]
        split <;> simp_all

/-- A directory that cannot be looked up ends the loading at once. -/
theorem InOrder.of_unknown {number : Nat} {workspace : Workspace} {fault : Files.Fault}
    {outcome : Outcome (List Nat)} (ordered : InOrder number workspace [.unknown fault] outcome) :
    outcome.1 = .error (.file fault) := by
  cases ordered with
  | @completed paths _ _ _ all => cases paths <;> simp at all
  | @cut paths _ _ _ _ _ _ split _ failed =>
    cases paths with
    | nil =>
      rw [List.map_nil, List.nil_append, List.cons.injEq] at split
      rw [← split.1] at failed
      exact congrArg Except.error (Except.error.inj failed).symm
    | cons path rest => simp at split

theorem inOrder_loadConfigured {workspace : Workspace} {directories : List Text} {ending : Text}
    (configures : workspace.Configures directories ending) (number : Nat) :
    InOrder number workspace (directories.flatMap (configuredListing workspace.tree ending))
      (workspace.loadConfigured number) := by
  obtain ⟨settings, obtained, listed, suffix⟩ := configures
  unfold loadConfigured
  simp only
  generalize workspace.settings.obtain workspace.settingsSource = outcome at obtained
  obtain ⟨⟨result, events⟩, cache⟩ := outcome
  obtain rfl : result = .ok settings := obtained
  simp only [listed, suffix]
  have informed : Agrees workspace { workspace.report events with settings := cache } :=
    ⟨⟨rfl, rfl, rfl⟩, rfl⟩
  exact (inOrder_loadDirectories _ number ending directories).of_agrees informed.symm

/-! ## Failures -/

/-- The failure is an error of this library about a file or a key file. -/
def IsReported (failure : Failure) : Prop :=
  ∃ error, failure = .error error ∧ (error.category = .file ∨ error.category = .keyFile)

theorem isReported_ofFileFault {fault : Files.Fault} {error : RepoError}
    (category : error.category = .file ∨ error.category = .keyFile) :
    IsReported (.ofFileFault fault error) ↔ fault.isMalformed = false := by
  unfold Failure.ofFileFault
  cases fault.isMalformed with
  | false => simpa [IsReported] using category
  | true => simp [IsReported]

theorem isReported_of_loadFile {tree : Files.Tree} {path : Files.Path} {failure : Failure}
    (failed : (KeyFile.loadFile tree path).1 = .error failure) :
    IsReported failure ↔ '\x00' ∉ path.toText := by
  unfold KeyFile.loadFile Files.Tree.readText Files.Tree.readExact at failed
  cases read : tree.read path.toText with
  | error fault =>
    obtain rfl : Failure.unreadable path.toText (.file fault) = failure := by
      simpa [read, Except.map] using failed
    rw [← Files.Tree.isMalformed_of_read read, Bool.not_eq_true]
    exact isReported_ofFileFault (.inl rfl)
  | ok content =>
    refine iff_of_true ?_ (Files.Tree.not_mem_of_read read)
    cases decoded : Utf8.decode content with
    | error fault =>
      obtain rfl : Failure.unreadable path.toText (.undecodable fault) = failure := by
        simpa [read, decoded, Except.map] using failed
      exact ⟨_, rfl, .inl rfl⟩
    | ok text =>
      simp only [read, decoded, Except.map, KeyFile.load] at failed
      cases parsed : KeyFile.parse (Folding.fold (Text.unifyNewlines text)) with
      | error fault =>
        obtain rfl : Failure.error (.malformed path.toText fault) = failure := by
          simpa [parsed, Except.mapError] using failed
        exact ⟨_, rfl, .inr rfl⟩
      | ok keyFile => simp [parsed, Except.mapError] at failed

theorem isReported_of_parse {workspace : Workspace} {number : Nat} {path : Text}
    {failure : Failure} (failed : (workspace.parse number path).1 = .error failure) :
    IsReported failure ↔ '\x00' ∉ path := by
  have unloaded :
      (KeyFile.loadFile workspace.tree (Files.Path.ofText path)).1 = .error failure := by
    simp only [parse] at failed
    split at failed
    · rename_i loaded
      obtain rfl := Except.error.inj failed
      rw [loaded]
    · cases failed
  rw [isReported_of_loadFile unloaded,
    Files.Path.mem_toText_ofText (by decide) (by decide) path]

/-- Whatever comes next fails with an error of this library. -/
def Attempt.IsPlain : Attempt → Prop
  | .file path => '\x00' ∉ path
  | .unopened _ fault => fault.isMalformed = false
  | .unknown _ => False

theorem isReported_of_attempt {workspace : Workspace} {number : Nat} {stopping : Attempt}
    {failure : Failure} (failed : (workspace.attempt number stopping).1 = .error failure) :
    IsReported failure ↔ stopping.IsPlain := by
  cases stopping with
  | file path => exact isReported_of_parse failed
  | unopened directory fault =>
    obtain rfl : Failure.unopenable directory fault = failure := Except.error.inj failed
    exact isReported_ofFileFault (.inr rfl)
  | unknown fault =>
    obtain rfl : Failure.file fault = failure := Except.error.inj failed
    simp [IsReported, Attempt.IsPlain]

theorem InOrder.isReported {number : Nat} {workspace : Workspace} {attempts : List Attempt}
    {outcome : Outcome (List Nat)} (ordered : InOrder number workspace attempts outcome)
    (plain : ∀ stopping ∈ attempts, stopping.IsPlain) {failure : Failure}
    (failed : outcome.1 = .error failure) : IsReported failure := by
  cases ordered with
  | completed => cases failed
  | cut split _ stops =>
    obtain rfl := Except.error.inj failed
    exact (isReported_of_attempt stops).mpr (plain _ (by simp [split]))

/-- The names of a tree and a proper path make proper paths. -/
theorem isPlain_of_mem_matching {ending directory : Text} {names : List Text}
    (proper : '\x00' ∉ directory) (named : ∀ name ∈ names, '\x00' ∉ name) {stopping : Attempt}
    (member : stopping ∈ matching ending directory names) : stopping.IsPlain := by
  obtain ⟨name, name_member, rfl⟩ := List.mem_map.mp member
  have name_proper := named name (List.mem_filter.mp name_member).1
  change '\x00' ∉ Files.Path.entryText directory name
  unfold Files.Path.entryText
  split <;> simp [proper, name_proper]

theorem isPlain_of_mem_listing {tree : Files.Tree} (named : tree.IsNamed) {ending directory : Text}
    (proper : '\x00' ∉ directory) {stopping : Attempt}
    (member : stopping ∈ listing tree ending directory) : stopping.IsPlain := by
  unfold listing at member
  split at member
  · rename_i names listed
    exact isPlain_of_mem_matching proper (fun name => named.not_mem_of_entries listed) member
  · rename_i fault unlisted
    obtain rfl := List.mem_singleton.mp member
    have malformed := Files.Tree.isMalformed_of_entries unlisted
    simpa [Attempt.IsPlain, proper] using malformed

theorem isPlain_of_mem_configuredListing {tree : Files.Tree} (named : tree.IsNamed)
    {ending directory : Text}
    (known : ∀ fault, tree.examine (Files.Path.ofText directory).toText ≠ .error fault)
    {stopping : Attempt} (member : stopping ∈ configuredListing tree ending directory) :
    stopping.IsPlain := by
  unfold configuredListing at member
  split at member
  · rename_i found
    refine isPlain_of_mem_listing named ?_ member
    rw [← Files.Path.mem_toText_ofText (by decide) (by decide) directory]
    exact Files.Tree.not_mem_of_examine found
  · cases member
  · rename_i fault lost
    exact absurd lost (known fault)

/-! ## The law of loading -/

/-- The attempts were made in order up to the first failure, what was there before is intact, and a
failure is an error of this library. -/
structure LoadsInOrder (number : Nat) (workspace : Workspace) (attempts : List Attempt)
    (outcome : Outcome (List Nat)) : Prop where
  ordered : InOrder number workspace attempts outcome
  intact : Grown number workspace outcome.2
  reported : ∀ failure, outcome.1 = .error failure → IsReported failure

theorem InOrder.loadsInOrder {number : Nat} {workspace : Workspace} {attempts : List Attempt}
    {outcome : Outcome (List Nat)} (ordered : InOrder number workspace attempts outcome)
    (plain : ∀ stopping ∈ attempts, stopping.IsPlain) :
    LoadsInOrder number workspace attempts outcome :=
  ⟨ordered, ordered.grown, fun _ => ordered.isReported plain⟩

/-- A directory that cannot be opened leaves the workspace as it is. -/
theorem loadDirectory_of_unlisted {workspace : Workspace} {directory : Text} {fault : Files.Fault}
    (unlisted : workspace.tree.entries directory = .error fault) (number : Nat) (suffix : Value) :
    workspace.loadDirectory number directory suffix =
      (.error (.unopenable directory fault), workspace) := by
  simp [loadDirectory, unlisted]

/-- A directory with a malformed path is not opened, and the failure is no error of this library. -/
theorem proper_of_loadsInOrder {workspace : Workspace} {number : Nat} {ending directory : Text}
    {attempts : List Attempt}
    (loads : LoadsInOrder number workspace attempts
      (workspace.loadDirectory number directory (.text ending))) : '\x00' ∉ directory := by
  cases listed : workspace.tree.entries directory with
  | ok names => exact Files.Tree.not_mem_of_entries listed
  | error fault =>
    have reported := loads.reported (.unopenable directory fault)
      (by rw [loadDirectory_of_unlisted listed])
    rw [← Files.Tree.isMalformed_of_entries listed, Bool.not_eq_true]
    exact (isReported_ofFileFault (.inr rfl)).mp reported

/-- Directories are loaded in order, whatever order their listings have, provided that the path of a
single directory is not malformed, and that no configured directory has a name that is too long to
be looked up. A directory that cannot be opened is an error that leaves the workspace as it is. -/
theorem loads_in_order {workspace : Workspace} (named : workspace.tree.IsNamed) (number : Nat)
    (ending : Text) :
    (∀ directory, LoadsInOrder number workspace (listing workspace.tree ending directory)
        (workspace.loadDirectory number directory (.text ending)) ↔ '\x00' ∉ directory) ∧
      (∀ directory names, '\x00' ∉ directory → (∀ name ∈ names, '\x00' ∉ name) →
        LoadsInOrder number workspace (matching ending directory names)
          (workspace.loadNames number directory (.text ending) names)) ∧
      (∀ directory fault, '\x00' ∉ directory → workspace.tree.entries directory = .error fault →
        workspace.loadDirectory number directory (.text ending) =
          (.error (.error (.unopenable directory fault)), workspace)) ∧
      ∀ directories, workspace.Configures directories ending →
        (∀ directory ∈ directories, ∀ fault,
          workspace.tree.examine (Files.Path.ofText directory).toText ≠ .error fault) →
        LoadsInOrder number workspace
          (directories.flatMap (configuredListing workspace.tree ending))
          (workspace.loadConfigured number) := by
  refine ⟨fun directory => ⟨proper_of_loadsInOrder, fun proper => ?_⟩, ?_, ?_, ?_⟩
  · exact (inOrder_loadDirectory workspace number ending directory).loadsInOrder
      fun _ => isPlain_of_mem_listing named proper
  · intro directory names proper names_proper
    exact (inOrder_loadNames workspace number ending directory names).loadsInOrder
      fun _ => isPlain_of_mem_matching proper names_proper
  · intro directory fault proper unlisted
    have formed : fault.isMalformed = false := by
      simpa [proper] using Files.Tree.isMalformed_of_entries unlisted
    rw [loadDirectory_of_unlisted unlisted, Failure.unopenable, Failure.ofFileFault, formed]
    rfl
  · intro directories configures known
    refine (inOrder_loadConfigured configures number).loadsInOrder fun stopping member => ?_
    obtain ⟨directory, listed, inner⟩ := List.mem_flatMap.mp member
    exact isPlain_of_mem_configuredListing named (known directory listed) inner

/-! ## Two configured directories -/

/-- The text of settings that list one directory. -/
def settingsText (directory : Text) : Text :=
  Text.of "reposdir:\n  - " ++ directory ++ Text.of "\n"

/-- The entries of those settings. -/
def settingsEntries (directory : Text) : List (Text × Value) :=
  [(Text.of "reposdir", .list [.text directory])]

/-- A workspace whose settings list one directory, and a directory with two files. -/
def configuredWith (directory : Text) : Workspace where
  tree :=
    { current := [Text.of "work"]
      nodes := .ofList
        [([Text.of "u"], .directory),
          ([Text.of "u", Text.of "repoconf.yml"], .file (Utf8.encode (settingsText directory))),
          ([Text.of "d"], .directory),
          ([Text.of "d", Text.of "b.repo"], .file (Utf8.encode (Text.of "[r]\nk = 1\n"))),
          ([Text.of "d", Text.of "a.repo"], .file (Utf8.encode (Text.of "k = 1\n")))] }
  userDirectory := .ofText (Text.of "/u")
  parser := .ofDocuments
    (Settings.packagedDocuments ++ [(settingsText directory, .mapping (settingsEntries directory))])

theorem document?_configuredWith {directory : Text} (returnless : '\r' ∉ directory) :
    (configuredWith directory).settingsSource.document? (Text.of "repoconf.yml") =
      some (.mapping (settingsEntries directory)) := by
  have plain : '\r' ∉ settingsText directory := by
    have front : '\r' ∉ Text.of "reposdir:\n  - " := by decide
    have back : '\r' ∉ Text.of "\n" := by decide
    simp [settingsText, front, back, returnless]
  have head : (settingsText directory).head? = some 'r' := rfl
  have first : settingsText directory ≠ Settings.loggingText := fun same => by
    rw [same] at head
    exact absurd head (by decide)
  have second : settingsText directory ≠ Settings.repositoryText := fun same => by
    rw [same] at head
    exact absurd head (by decide)
  exact Settings.Source.document?_of_read (Settings.readText_of_read plain rfl)
    (Settings.read_packagedDocuments_append first second)

theorem configures_configuredWith {directory : Text} (returnless : '\r' ∉ directory) :
    (configuredWith directory).Configures [directory] (Text.of ".repo") := by
  have reads : (configuredWith directory).parser.ReadsPackaged :=
    Settings.readsPackaged_ofDocuments _
  have place : (configuredWith directory).settingsSource.tree.locate
      ((configuredWith directory).settingsSource.userPath (Text.of "logging.yml")) =
        .ok [Text.of "u", Text.of "logging.yml"] := rfl
  obtain ⟨settings, loaded, found⟩ := Settings.exists_load_of_mapping
    (Settings.isPackaged_of_default rfl reads) Settings.get?_defaultFilenames_repositories
    (Settings.Source.packaged?_repositories reads) (document?_configuredWith returnless)
    fun other file more different named _ => by
      obtain ⟨-, rfl⟩ | ⟨-, rfl⟩ := Settings.eq_of_get?_defaultFilenames named
      · exact Settings.spares_of_absent place rfl more
      · exact absurd rfl different
  have fresh : (configuredWith directory).settings.current = none := rfl
  refine ⟨settings, (Settings.obtain_of_fresh fresh _).trans loaded, ?_⟩
  have user : (OrderedMap.ofList (settingsEntries directory)).get? (Text.of "reposdir") =
      some (.list [.text directory]) := rfl
  have other : (OrderedMap.ofList (settingsEntries directory)).get?
      (Text.of "repo_file_suffix") = none := rfl
  have packaged : (Settings.entriesOf Settings.repositoryEntries).get?
      (Text.of "repo_file_suffix") = some (.text (Text.of ".repo")) := rfl
  simp only [Settings.sectionOf, found, Option.getD_some, OrderedMap.get?_insertAll, user, other,
    packaged, Option.some_or, Option.none_or]
  exact ⟨rfl, rfl⟩

/-- The files of the directory are loaded in order. -/
theorem configured_directory_loads_in_order :
    LoadsInOrder 0 (configuredWith (Text.of "/d"))
      [.file (Text.of "/d/b.repo"), .file (Text.of "/d/a.repo")]
      ((configuredWith (Text.of "/d")).loadConfigured 0) := by
  have named : (configuredWith (Text.of "/d")).tree.IsNamed := by decide +kernel
  have found : (configuredWith (Text.of "/d")).tree.examine
      (Files.Path.ofText (Text.of "/d")).toText = .ok (some .directory) := by rfl
  have entries : (configuredWith (Text.of "/d")).tree.entries (Text.of "/d") =
      .ok [Text.of "b.repo", Text.of "a.repo"] := by rfl
  have listed : [Text.of "/d"].flatMap
      (configuredListing (configuredWith (Text.of "/d")).tree (Text.of ".repo")) =
      [.file (Text.of "/d/b.repo"), .file (Text.of "/d/a.repo")] := by
    simp only [List.flatMap_singleton, configuredListing, found, listing, entries]
    rfl
  obtain ⟨-, -, -, configured⟩ := loads_in_order named 0 (Text.of ".repo")
  rw [← listed]
  refine configured [Text.of "/d"] (configures_configuredWith (by decide))
    fun directory member fault => ?_
  rw [List.mem_singleton.mp member, found]
  simp

/-- A configured directory whose name is too long to be looked up is not skipped, and the failure is
no error of this library. -/
theorem long_directory_is_not_skipped :
    (configuredWith (List.replicate 256 'a')).Configures [List.replicate 256 'a']
        (Text.of ".repo") ∧
      (configuredWith (List.replicate 256 'a')).tree.isDirectory (List.replicate 256 'a') = false ∧
      ((configuredWith (List.replicate 256 'a')).loadConfigured 0).1 =
        .error (.file { kind := .tooLong, path := List.replicate 256 'a' }) := by
  have configures : (configuredWith (List.replicate 256 'a')).Configures
      [List.replicate 256 'a'] (Text.of ".repo") := configures_configuredWith (by decide +kernel)
  have unknown : (configuredWith (List.replicate 256 'a')).tree.examine
      (Files.Path.ofText (List.replicate 256 'a')).toText =
        .error { kind := .tooLong, path := List.replicate 256 'a' } :=
    Files.Tree.examine_of_exceeds _ (by decide +kernel) (by decide +kernel) (by decide +kernel)
      (by decide +kernel)
  refine ⟨configures, by decide +kernel, ?_⟩
  have ordered := inOrder_loadConfigured configures 0
  simp only [List.flatMap_singleton, configuredListing, unknown] at ordered
  exact ordered.of_unknown

end Workspace
end PackageRepos
