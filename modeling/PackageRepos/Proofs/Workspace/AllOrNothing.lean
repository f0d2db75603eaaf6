import PackageRepos.Proofs.Files.Malformed
import PackageRepos.Proofs.Files.Siblings
import PackageRepos.Proofs.Workspace.Saving

/-!
# Saving all or nothing

A save writes the temporary file beside its target and moves it over the target. It does either all
of this or nothing only as long as the temporary file leaves no trace: what stood in its place is
lost, and it stays when it cannot be written to its end or moved. A path without a name or with a
null character is refused in another way than as a file that cannot be written, and so is a text
that has no code.
-/

namespace PackageRepos

/-- The failure is an error about a file. -/
def Failure.IsFileError (failure : Failure) : Prop :=
  ∃ error : RepoError, failure = .error error ∧ error.category = .file

/-- A file that cannot be written is reported as such unless its path is malformed. -/
theorem Failure.isFileError_unwritable_iff {path : Text} {fault : Files.Fault} :
    (unwritable path (.file fault)).IsFileError ↔ fault.isMalformed = false := by
  rw [unwritable, ofFileFault, IsFileError]
  cases fault.isMalformed with
  | true => simp
  | false => simp [RepoError.unwritable]

namespace Workspace

open Files

/-- Only what the target leads to is new: it is a file with the text. -/
structure StoresOnly (tree final : Tree) (target text : Text) : Prop where
  content : final.find? target = some (.file (Utf8.encode text))
  others : ∀ path, ¬tree.SamePlace target path → final.find? path = tree.find? path

/-- Either the text was saved to the target and nothing else has happened to the tree, or the save
has failed with an error about the file and nothing at all has happened to it. -/
structure AllOrNothing (tree : Tree) (target : Files.Path) (text : Text)
    (outcome : Outcome Files.Path) : Prop where
  all : ∀ path, outcome.1 = .ok path →
    path = target ∧ StoresOnly tree outcome.2.tree target.toText text
  nothing : ∀ failure, outcome.1 = .error failure →
    failure.IsFileError ∧ outcome.2.tree = tree

theorem allOrNothing_ok {tree : Tree} {target path : Files.Path} {text : Text}
    {after : Workspace} :
    AllOrNothing tree target text (.ok path, after) ↔
      path = target ∧ StoresOnly tree after.tree target.toText text := by
  constructor
  · exact fun done => done.all path rfl
  · intro stored
    refine ⟨fun other same => ?_, fun failure failed => (by cases failed)⟩
    obtain rfl : path = other := Except.ok.inj same
    exact stored

theorem allOrNothing_error {tree : Tree} {target : Files.Path} {text : Text} {failure : Failure}
    {after : Workspace} :
    AllOrNothing tree target text (.error failure, after) ↔
      failure.IsFileError ∧ after.tree = tree := by
  constructor
  · exact fun done => done.nothing failure rfl
  · intro refused
    refine ⟨fun path saved => (by cases saved), fun other same => ?_⟩
    obtain rfl : failure = other := Except.error.inj same
    exact refused

/-! ## The two steps -/

/-- The temporary file is opened at a place. -/
def Opens (tree : Tree) (temporary : Text) (mishap : Option Mishap) (origin : Location) : Prop :=
  tree.fileLocation temporary = .ok origin ∧ ∀ fault, mishap ≠ some (.unopened fault)

/-- What an opened temporary file holds when it stays for a reason that is one of files: the whole
text when it is not moved, or the part of it that was written. -/
inductive Leaves (tree : Tree) (target text : Text) : Option Mishap → List UInt8 → Prop
  | blocked (closed : ∀ destination, tree.destination target ≠ .ok destination) :
      Leaves tree target text none (Utf8.encode text)
  | stopped (fault : SystemFault) (count : Nat) :
      Leaves tree target text (some (.stopped fault count)) ((Utf8.encode text).take count)
  | unmoved (fault : SystemFault) :
      Leaves tree target text (some (.unmoved fault)) (Utf8.encode text)

/-- What becomes of a replacement: the temporary file is not written, or it stays for a reason that
is one of files or because the text has no code, or it is moved over the target. -/
inductive Replacing (tree : Tree) (temporary target text : Text) :
    Option Mishap → Except WriteFault Unit × Tree → Prop
  | unwritten {mishap : Option Mishap} {fault : Fault}
      (closed : ∀ origin, ¬Opens tree temporary mishap origin)
      (reason : fault.isMalformed = true ↔ '\x00' ∈ temporary) :
      Replacing tree temporary target text mishap (.error (.file fault), tree)
  | left {mishap : Option Mishap} {fault : Fault} {origin : Location} {content : List UInt8}
      (opened : Opens tree temporary mishap origin)
      (leaves : Leaves tree target text mishap content)
      (reason : '\x00' ∉ target → fault.isMalformed = false) :
      Replacing tree temporary target text mishap
        (.error (.file fault), tree.insert origin (.file content))
  | uncodable {fault : Utf8.Uncodable} {origin : Location}
      (opened : Opens tree temporary (some (.uncodable fault)) origin) :
      Replacing tree temporary target text (some (.uncodable fault))
        (.error (.uncodable fault), tree.insert origin (.file []))
  | moved {origin destination : Location} (opened : Opens tree temporary none origin)
      (reached : tree.destination target = .ok destination) :
      Replacing tree temporary target text none
        (.ok (), tree.replace origin destination (Utf8.encode text))

/-- Without a mishap the temporary file is written, and moved where that is possible. -/
theorem replacing_of_calm {tree : Tree} {temporary target text : Text} {origin : Location}
    (writable : tree.fileLocation temporary = .ok origin) :
    Replacing tree temporary target text none (replaceText tree temporary target text) := by
  have opened : Opens tree temporary none origin := ⟨writable, nofun⟩
  have proper := Tree.not_mem_of_locate (Tree.fileLocation_eq_ok.mp writable).1
  cases moved : (tree.insert origin (.file (Utf8.encode text))).move temporary target with
  | error fault =>
    have done : replaceText tree temporary target text =
        (.error (.file fault), tree.insert origin (.file (Utf8.encode text))) := by
      simp [replaceText, Tree.writeText, writable, Tree.moveFile, moved]
    rw [done]
    refine .left opened (.blocked fun destination reached => ?_)
      fun target_proper => Tree.isMalformed_of_move proper target_proper moved
    have replaced : replaceText tree temporary target text = (.ok (), _) :=
      replaceText_eq_ok.mpr ⟨rfl, origin, destination, writable, reached, rfl⟩
    rw [done] at replaced
    cases replaced
  | ok final =>
    have done : replaceText tree temporary target text = (.ok (), final) := by
      simp [replaceText, Tree.writeText, writable, Tree.moveFile, moved]
    obtain ⟨-, place, destination, found, reached, rfl⟩ := replaceText_eq_ok.mp done
    obtain rfl : origin = place := Except.ok.inj (writable.symm.trans found)
    rw [done]
    exact .moved opened reached

theorem replacing_replaceText (tree : Tree) (temporary target text : Text)
    (mishap : Option Mishap) :
    Replacing tree temporary target text mishap
      (replaceText tree temporary target text mishap) := by
  cases writable : tree.fileLocation temporary with
  | error kind =>
    have done : replaceText tree temporary target text mishap =
        (.error (.file { kind, path := temporary }), tree) := by
      simp [replaceText, Tree.writeText, writable]
    rw [done]
    refine .unwritten (fun origin opened => ?_) ?_
    · cases writable.symm.trans opened.1
    · rw [← @Tree.fileLocation_eq_malformedPath_iff tree, writable]
      simp [Fault.isMalformed]
  | ok origin =>
    have proper := Tree.not_mem_of_locate (Tree.fileLocation_eq_ok.mp writable).1
    cases mishap with
    | none => exact replacing_of_calm writable
    | some mishap =>
      cases mishap with
      | unopened fault =>
        have done : replaceText tree temporary target text (some (.unopened fault)) =
            (.error (.file { kind := .system fault, path := temporary }), tree) := by
          simp [replaceText, Tree.writeText, writable]
        rw [done]
        exact .unwritten (fun place opened => opened.2 fault rfl)
          (iff_of_false Bool.false_ne_true proper)
      | stopped fault count =>
        have done : replaceText tree temporary target text (some (.stopped fault count)) =
            (.error (.file { kind := .system fault, path := none }),
              tree.insert origin (.file ((Utf8.encode text).take count))) := by
          simp [replaceText, Tree.writeText, writable]
        rw [done]
        exact .left ⟨writable, by simp⟩ (.stopped fault count) fun _ => rfl
      | uncodable fault =>
        have done : replaceText tree temporary target text (some (.uncodable fault)) =
            (.error (.uncodable fault), tree.insert origin (.file [])) := by
          simp [replaceText, Tree.writeText, writable]
        rw [done]
        exact .uncodable ⟨writable, by simp⟩
      | unmoved fault =>
        have done : replaceText tree temporary target text (some (.unmoved fault)) =
            (.error (.file { kind := .system fault, path := temporary, target := some target }),
              tree.insert origin (.file (Utf8.encode text))) := by
          simp [replaceText, Tree.writeText, writable, Tree.moveFile]
        rw [done]
        exact .left ⟨writable, by simp⟩ (.unmoved fault) fun _ => rfl

/-- The temporary file leaves no trace: it is not written, or it is moved away from a place where
nothing stood, or it stays, for a reason that is one of files, and stood there already. -/
inductive Traceless (tree : Tree) (temporary target text : Text) (mishap : Option Mishap) : Prop
  | unwritten (closed : ∀ origin, ¬Opens tree temporary mishap origin)
  | moved {destination : Location} (calm : mishap = none)
      (reached : tree.destination target = .ok destination) (free : tree.find? temporary = none)
  | kept {content : List UInt8} (leaves : Leaves tree target text mishap content)
      (same : tree.find? temporary = some (.file content))

/-- A temporary file that stays must have stood there already. -/
theorem traceless_iff_of_left {tree : Tree} {temporary target text : Text} {mishap : Option Mishap}
    {origin : Location} {content : List UInt8} (opened : Opens tree temporary mishap origin)
    (leaves : Leaves tree target text mishap content) :
    Traceless tree temporary target text mishap ↔
      tree.find? temporary = some (.file content) := by
  constructor
  · intro traceless
    cases traceless with
    | unwritten closed => exact absurd opened (closed origin)
    | moved calm reached =>
      subst calm
      cases leaves with
      | blocked closed => exact absurd reached (closed _)
    | kept other same => cases leaves <;> cases other <;> exact same
  · exact .kept leaves

/-- A temporary file that is moved must have had its place for itself. -/
theorem traceless_iff_of_moved {tree : Tree} {temporary target text : Text}
    {origin destination : Location} (opened : Opens tree temporary none origin)
    (reached : tree.destination target = .ok destination) :
    Traceless tree temporary target text none ↔ tree.find? temporary = none := by
  constructor
  · intro traceless
    cases traceless with
    | unwritten closed => exact absurd opened (closed origin)
    | moved _ _ free => exact free
    | kept leaves =>
      cases leaves with
      | blocked closed => exact absurd reached (closed destination)
  · exact .moved rfl reached

/-- A text without a code leaves its trace. -/
theorem not_traceless_of_uncodable {tree : Tree} {temporary target text : Text} {origin : Location}
    {fault : Utf8.Uncodable} (opened : Opens tree temporary (some (.uncodable fault)) origin) :
    ¬Traceless tree temporary target text (some (.uncodable fault)) := by
  intro traceless
  cases traceless with
  | unwritten closed => exact closed origin opened
  | moved calm => cases calm
  | kept leaves => cases leaves

/-- A replacement that is done changes nothing but the target exactly when nothing stood in the
place of the temporary file. -/
theorem storesOnly_replace_iff {tree : Tree} {temporary target text : Text}
    {origin destination : Location} (writable : tree.fileLocation temporary = .ok origin)
    (reached : tree.fileLocation target = .ok destination) (apart : origin ≠ destination) :
    StoresOnly tree (tree.replace origin destination (Utf8.encode text)) target text ↔
      tree.find? temporary = none := by
  have located := (Tree.fileLocation_eq_ok.mp writable).1
  have target_located := (Tree.fileLocation_eq_ok.mp reached).1
  have find_eq := Tree.find?_replace (Utf8.encode text) writable reached
  constructor
  · intro stored
    have different : ¬tree.SamePlace target temporary := by
      rintro ⟨place, here, there⟩
      rw [target_located] at here
      rw [located] at there
      exact apart ((Except.ok.inj there).trans (Except.ok.inj here).symm)
    rw [← stored.others temporary different, find_eq, if_neg different,
      if_pos ⟨origin, located, located⟩]
  · intro free
    refine ⟨by rw [find_eq, if_pos ⟨destination, target_located, target_located⟩], ?_⟩
    intro path elsewhere
    rw [find_eq, if_neg elsewhere]
    split
    · rename_i same
      rw [← same.find?_eq, free]
    · rfl

/-- A save is all or nothing exactly when its target has a name and no null character, and the
temporary file leaves no trace. -/
theorem allOrNothing_saveAs_iff (workspace : Workspace) (file : LoadedFile)
    (target : Files.Path) (mishap : Option Mishap) :
    AllOrNothing workspace.tree target file.keyFile.print
        (workspace.saveAs file target mishap) ↔
      '\x00' ∉ target.toText ∧
        ∃ temporary, target.withName? (temporaryName target) = some temporary ∧
          Traceless workspace.tree temporary.toText target.toText file.keyFile.print mishap := by
  unfold saveAs
  rw [← temporaryName]
  cases named : target.withName? (temporaryName target) with
  | none => simp [allOrNothing_error, Failure.IsFileError]
  | some temporary =>
    have beside : temporary.toText = target.toText ++ temporaryEnding :=
      Path.toText_of_withName? named
    have proper_of_opens : ∀ {other origin},
        Opens workspace.tree temporary.toText other origin → '\x00' ∉ target.toText :=
      fun opened null => Tree.not_mem_of_locate (Tree.fileLocation_eq_ok.mp opened.1).1
        (beside ▸ List.mem_append_left _ null)
    have replacing := replacing_replaceText workspace.tree temporary.toText target.toText
      file.keyFile.print mishap
    simp only [Option.some.injEq, exists_eq_left']
    generalize replaceText workspace.tree temporary.toText target.toText file.keyFile.print
      mishap = done at replacing ⊢
    cases replacing with
    | unwritten closed reason =>
      have malformed : '\x00' ∈ temporary.toText ↔ '\x00' ∈ target.toText := by
        rw [beside, List.mem_append, or_iff_left (by decide)]
      rw [allOrNothing_error, Failure.isFileError_unwritable_iff, ← Bool.not_eq_true, reason,
        malformed]
      exact and_congr_right fun _ => iff_of_true rfl (.unwritten closed)
    | @left _ _ origin content opened leaves reason =>
      obtain ⟨located, origin_closed⟩ := Tree.fileLocation_eq_ok.mp opened.1
      have find_eq : workspace.tree.find? temporary.toText = workspace.tree.node? origin := by
        rw [Tree.find?, located]
      have proper := proper_of_opens opened
      simp only [allOrNothing_error, Failure.isFileError_unwritable_iff, reason proper, proper,
        not_false_eq_true, true_and, Tree.insert_eq_self_iff origin_closed, ← find_eq]
      exact (traceless_iff_of_left opened leaves).symm
    | @uncodable fault origin opened =>
      refine iff_of_false (fun done => ?_) fun traceless =>
        not_traceless_of_uncodable opened traceless.2
      obtain ⟨⟨error, same, -⟩, -⟩ := allOrNothing_error.mp done
      cases same
    | moved opened reached =>
      have target_reached := (Tree.destination_eq_ok.mp reached).2
      have apart := Tree.ne_of_fileLocation_append (by decide) (by decide) target_reached
        (beside ▸ opened.1)
      simp only [allOrNothing_ok, proper_of_opens opened, not_false_eq_true, true_and]
      exact (storesOnly_replace_iff opened.1 target_reached apart).trans
        (traceless_iff_of_moved opened reached).symm

/-- A workspace with a directory in its tree. -/
def withDirectory : Workspace :=
  { tree := { nodes := OrderedMap.insert ∅ [Text.of "d"] .directory } }

/-- A file cannot be saved over the directory, which is reported as it should be, but the temporary
file stays beside the directory. -/
theorem temporary_file_is_left : ∃ keyFile error after,
    KeyFile.parse (Folding.fold plainText) = .ok keyFile ∧
      withDirectory.saveAs { path := Files.Path.ofText sampleName, keyFile }
        (Files.Path.ofText (Text.of "d")) = (.error (.error error), after) ∧
      error.category = .file ∧ withDirectory.tree.find? (Text.of "d.tmp") = none ∧
      after.tree.find? (Text.of "d.tmp") = some (.file (Utf8.encode plainText)) ∧
      ¬AllOrNothing withDirectory.tree (Files.Path.ofText (Text.of "d")) keyFile.print
        (.error (.error error), after) := by
  refine ⟨_, _, _, rfl, rfl, rfl, rfl, rfl, ?_⟩
  rw [allOrNothing_error]
  rintro ⟨-, same⟩
  have found := congrArg (·.find? (Text.of "d.tmp")) same
  cases found

end Workspace
end PackageRepos
