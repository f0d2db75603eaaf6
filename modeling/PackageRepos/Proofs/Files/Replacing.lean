import PackageRepos.Files.TextFile
import PackageRepos.Proofs.Files.Walk
import PackageRepos.Proofs.Text.Utf8
import PackageRepos.Workspace.Saving

/-!
# Replacing a file by way of a temporary one

Writing a file and moving it over another one leaves all open directories and opens no other ones.
Once that has succeeded the target holds the text, and it succeeds again from there; all other files
are as they were, except that none is left in the place of the temporary one.
-/

namespace PackageRepos
namespace Files
namespace Tree

theorem isAmbient_eq_false {tree : Tree} {location : Location}
    (closed : tree.node? location ≠ some .directory) : tree.isAmbient location = false := by
  by_cases ambient : tree.isAmbient location = true
  · exact absurd (node?_of_isAmbient ambient) closed
  · simpa using ambient

theorem node?_of_not_isAmbient {tree : Tree} {location : Location}
    (place : tree.isAmbient location = false) :
    tree.node? location = tree.nodes.get? location := by
  simp [node?, place]

/-- Places that look the same in the nodes look the same in the trees. -/
theorem node?_congr {tree other : Tree} {location : Location}
    (current : other.current = tree.current)
    (same : other.nodes.get? location = tree.nodes.get? location) :
    other.node? location = tree.node? location := by
  rw [node?, node?, isAmbient, isAmbient, current, same]

theorem fileLocation_eq_ok {tree : Tree} {path : Text} {location : Location} :
    tree.fileLocation path = .ok location ↔
      tree.locate path = .ok location ∧ tree.node? location ≠ some .directory := by
  unfold fileLocation
  split
  · rename_i missing
    simp [missing]
  · rename_i found located
    rw [located]
    split
    · rename_i directory
      simp only [reduceCtorEq, Except.ok.injEq, ne_eq, false_iff, not_and]
      rintro rfl closed
      exact closed directory
    · rename_i closed
      simp only [Except.ok.injEq, ne_eq, iff_self_and]
      rintro rfl
      exact closed

theorem destination_eq_ok {tree : Tree} {path : Text} {location : Location} :
    tree.destination path = .ok location ↔
      (Path.ofText path).name? ≠ some Path.parentName ∧
        tree.fileLocation path = .ok location := by
  unfold destination
  split <;> simp_all

theorem readExact_eq_ok {tree : Tree} {path text : Text} :
    tree.readExact path = .ok text ↔
      ∃ location content, tree.locate path = .ok location ∧
        tree.node? location = some (.file content) ∧ Utf8.decode content = .ok text := by
  unfold readExact Tree.read
  cases tree.locate path with
  | error kind => simp
  | ok location =>
    cases found : tree.node? location with
    | none => simp [found]
    | some node =>
      cases node with
      | directory => simp [found]
      | file content => cases decoded : Utf8.decode content <;> simp [found, decoded]

theorem find?_eq_some_iff {tree : Tree} {path : Text} {node : Node} :
    tree.find? path = some node ↔
      ∃ location, tree.locate path = .ok location ∧ tree.node? location = some node := by
  unfold find?
  cases tree.locate path <;> simp

/-- Where paths lead to one place, they find the same. -/
theorem SamePlace.find?_eq {tree : Tree} {path other : Text} (same : tree.SamePlace path other) :
    tree.find? path = tree.find? other := by
  obtain ⟨location, located, other_located⟩ := same
  simp [find?, located, other_located]

theorem readExact_eq_ok_iff_find? {tree : Tree} {path text : Text} :
    tree.readExact path = .ok text ↔
      ∃ content, tree.find? path = some (.file content) ∧ Utf8.decode content = .ok text := by
  simp only [readExact_eq_ok, find?_eq_some_iff]
  constructor
  · rintro ⟨location, content, located, found, decoded⟩
    exact ⟨content, ⟨location, located, found⟩, decoded⟩
  · rintro ⟨content, ⟨location, located, found⟩, decoded⟩
    exact ⟨location, content, located, found, decoded⟩

/-- Where a file is read, it can be replaced. -/
theorem destination_of_readExact {tree : Tree} {path text : Text}
    (read : tree.readExact path = .ok text) :
    ∃ location, tree.destination path = .ok location := by
  obtain ⟨location, content, located, found, -⟩ := readExact_eq_ok.mp read
  have closed : tree.node? location ≠ some .directory := by simp [found]
  refine ⟨location, destination_eq_ok.mpr
    ⟨fun last => ?_, fileLocation_eq_ok.mpr ⟨located, closed⟩⟩⟩
  exact closed (node?_of_name?_eq_parentName located last)

/-! ## Writing -/

theorem node?_insert {tree : Tree} {location : Location} {node : Node}
    (closed : tree.node? location ≠ some .directory) (place : Location) :
    (tree.insert location node).node? place =
      if place = location then some node else tree.node? place := by
  split
  · rename_i same
    have ambient : tree.isAmbient location = false := isAmbient_eq_false closed
    have place_closed : (tree.insert location node).isAmbient location = false := ambient
    rw [same, node?_of_not_isAmbient place_closed, insert, OrderedMap.get?_insert_self]
  · rename_i different
    exact node?_congr rfl (OrderedMap.get?_insert_of_ne tree.nodes node different)

/-- A file that is put where no directory is changes nothing exactly when it stood there already. -/
theorem insert_eq_self_iff {tree : Tree} {location : Location} {node : Node}
    (closed : tree.node? location ≠ some .directory) :
    tree.insert location node = tree ↔ tree.node? location = some node := by
  rw [node?_of_not_isAmbient (isAmbient_eq_false closed)]
  constructor
  · intro same
    rw [← same]
    exact OrderedMap.get?_insert_self _ _ _
  · intro found
    rw [insert, OrderedMap.insert_eq_self found]

/-- A file that is put where no directory is leaves the open directories. -/
theorem keepsOpen_insert {tree : Tree} {location : Location} {node : Node}
    (closed : tree.node? location ≠ some .directory) :
    tree.KeepsOpen (tree.insert location node) := by
  refine ⟨rfl, fun place opened => ?_⟩
  rw [node?_insert closed]
  split
  · rename_i same
    exact absurd (opened location (same ▸ List.prefix_rfl)) closed
  · exact opened place List.prefix_rfl

/-- A new file opens no directory. -/
theorem keepsOpen_of_insert {tree : Tree} {location : Location} {content : List UInt8}
    (closed : tree.node? location ≠ some .directory) :
    (tree.insert location (.file content)).KeepsOpen tree := by
  refine ⟨rfl, fun place opened => ?_⟩
  have directory := opened place List.prefix_rfl
  rw [node?_insert closed] at directory
  split at directory
  · simp at directory
  · exact directory

/-- A new file does not change where files can be put. -/
theorem fileLocation_insert {tree : Tree} {location place : Location} {content : List UInt8}
    {path : Text} (closed : tree.node? location ≠ some .directory) :
    (tree.insert location (.file content)).fileLocation path = .ok place ↔
      tree.fileLocation path = .ok place := by
  rw [fileLocation_eq_ok, fileLocation_eq_ok, node?_insert closed]
  constructor
  · rintro ⟨located, open_place⟩
    refine ⟨locate_of_keepsOpen (keepsOpen_of_insert closed) located, ?_⟩
    split at open_place
    · rename_i same
      exact same ▸ closed
    · exact open_place
  · rintro ⟨located, open_place⟩
    refine ⟨locate_of_keepsOpen (keepsOpen_insert closed) located, ?_⟩
    split
    · simp
    · exact open_place

theorem destination_insert {tree : Tree} {location place : Location} {content : List UInt8}
    {path : Text} (closed : tree.node? location ≠ some .directory) :
    (tree.insert location (.file content)).destination path = .ok place ↔
      tree.destination path = .ok place := by
  rw [destination_eq_ok, destination_eq_ok, fileLocation_insert closed]

/-! ## Moving -/

/-- What a move puts at places under the destination. -/
def movedNodes (tree : Tree) (origin destination : Location) : List (Location × Node) :=
  tree.nodes.toList.filterMap fun (location, node) =>
    if origin.isPrefixOf location then some (destination ++ location.drop origin.length, node)
    else none

theorem mem_movedNodes {tree : Tree} {origin destination place : Location} {node : Node} :
    (place, node) ∈ tree.movedNodes origin destination ↔
      ∃ rest, place = destination ++ rest ∧ tree.nodes.get? (origin ++ rest) = some node := by
  simp only [movedNodes, List.mem_filterMap, Prod.exists, Option.ite_none_right_eq_some,
    Option.some.injEq, Prod.mk.injEq, List.isPrefixOf_iff_prefix]
  constructor
  · rintro ⟨location, _, member, ⟨rest, rfl⟩, rfl, rfl⟩
    exact ⟨rest, by simp, OrderedMap.get?_eq_some_iff.mpr member⟩
  · rintro ⟨rest, rfl, found⟩
    exact ⟨origin ++ rest, node, OrderedMap.get?_eq_some_iff.mp found, List.prefix_append _ _,
      by simp, rfl⟩

/-- Outside the destination a move only takes away what is under the origin. -/
theorem get?_relocate {tree : Tree} {origin destination place : Location}
    (entered : ¬destination <+: place) :
    (tree.relocate origin destination).nodes.get? place =
      if origin.isPrefixOf place then none else tree.nodes.get? place := by
  have missing : place ∉ (tree.movedNodes origin destination).map Prod.fst := by
    intro member
    obtain ⟨⟨_, node⟩, inner, rfl⟩ := List.mem_map.mp member
    obtain ⟨rest, place_eq, -⟩ := mem_movedNodes.mp inner
    exact entered ⟨rest, place_eq.symm⟩
  refine (OrderedMap.get?_insertAll_of_not_mem _ missing).trans ?_
  rw [OrderedMap.get?_filterKeys]
  cases origin.isPrefixOf place <;> rfl

/-- The current directory stays unless it is in what is moved. -/
theorem relocate_current {tree : Tree} {origin : Location} (destination : Location)
    (closed : tree.node? origin ≠ some .directory) :
    (tree.relocate origin destination).current = tree.current := by
  simp [relocate, isAmbient_eq_false closed]

/-- A place that lies neither under the origin nor under the destination is left alone. -/
theorem node?_relocate_of_apart {tree : Tree} {origin destination place : Location}
    (closed : tree.node? origin ≠ some .directory) (left : ¬origin <+: place)
    (entered : ¬destination <+: place) :
    (tree.relocate origin destination).node? place = tree.node? place := by
  apply node?_congr (relocate_current destination closed)
  have kept : origin.isPrefixOf place = false := by
    rw [← Bool.not_eq_true, List.isPrefixOf_iff_prefix]
    exact left
  simp [get?_relocate entered, kept]

/-- What stood at the origin stands at the destination. -/
theorem node?_relocate_destination {tree : Tree} {origin destination : Location} {node : Node}
    (closed : tree.node? origin ≠ some .directory)
    (destination_closed : tree.node? destination ≠ some .directory)
    (found : tree.nodes.get? origin = some node) :
    (tree.relocate origin destination).node? destination = some node := by
  have place : (tree.relocate origin destination).isAmbient destination = false := by
    rw [isAmbient, relocate_current destination closed]
    exact isAmbient_eq_false destination_closed
  rw [node?_of_not_isAmbient place]
  refine OrderedMap.get?_insertAll_of_mem _
    (mem_movedNodes.mpr ⟨[], by simp, by simpa using found⟩) ?_
  intro other member
  obtain ⟨rest, place_eq, other_found⟩ := mem_movedNodes.mp member
  obtain rfl : rest = [] := by simpa using place_eq
  rw [List.append_nil, found] at other_found
  exact (Option.some.inj other_found).symm

/-! ## Writing and moving -/

/-- The tree after a file was written at the origin and moved to the destination. -/
def replace (tree : Tree) (origin destination : Location) (content : List UInt8) : Tree :=
  (tree.insert origin (.file content)).relocate origin destination

section Replace

variable {tree : Tree} {origin destination : Location} (content : List UInt8)
  (origin_closed : tree.node? origin ≠ some .directory)
  (destination_closed : tree.node? destination ≠ some .directory)

include origin_closed

/-- The file is put where no directory was, and opens none. -/
theorem node?_insert_origin :
    (tree.insert origin (.file content)).node? origin ≠ some .directory := by
  simp [node?_insert origin_closed]

theorem replace_current :
    (tree.replace origin destination content).current = tree.current :=
  relocate_current destination (node?_insert_origin content origin_closed)

include destination_closed in
theorem node?_replace_destination :
    (tree.replace origin destination content).node? destination = some (.file content) := by
  refine node?_relocate_destination (node?_insert_origin content origin_closed) ?_
    (OrderedMap.get?_insert_self _ _ _)
  rw [node?_insert origin_closed]
  split
  · simp
  · exact destination_closed

/-- What lies neither under the origin nor under the destination is left alone. -/
theorem node?_replace_of_apart {place : Location} (left : ¬origin <+: place)
    (entered : ¬destination <+: place) :
    (tree.replace origin destination content).node? place = tree.node? place := by
  have different : place ≠ origin := fun same => left (same ▸ List.prefix_rfl)
  rw [replace, node?_relocate_of_apart (node?_insert_origin content origin_closed) left entered,
    node?_insert origin_closed, if_neg different]

theorem node?_replace_origin (entered : ¬destination <+: origin) :
    (tree.replace origin destination content).node? origin = none := by
  have place : (tree.replace origin destination content).isAmbient origin = false := by
    rw [isAmbient, replace_current content origin_closed]
    exact isAmbient_eq_false origin_closed
  rw [node?_of_not_isAmbient place, replace, get?_relocate entered]
  simp

include destination_closed

/-- What stands where there are only directories above: the file at the destination, nothing at the
origin, and whatever stood there anywhere else. -/
theorem node?_replace {place : Location} (sheltered : tree.IsSheltered place) :
    (tree.replace origin destination content).node? place =
      if place = destination then some (.file content)
      else if place = origin then none else tree.node? place := by
  split
  · rename_i here
    rw [here, node?_replace_destination content origin_closed destination_closed]
  · rename_i elsewhere
    have entered : ¬destination <+: place := fun above =>
      elsewhere (sheltered.eq_of_isPrefix destination_closed above).symm
    split
    · rename_i same
      subst same
      exact node?_replace_origin content origin_closed entered
    · rename_i different
      refine node?_replace_of_apart content origin_closed (fun above => ?_) entered
      exact different (sheltered.eq_of_isPrefix origin_closed above).symm

/-- The open directories are left. -/
theorem keepsOpen_replace : tree.KeepsOpen (tree.replace origin destination content) := by
  refine ⟨replace_current content origin_closed, fun place opened => ?_⟩
  rw [node?_replace_of_apart content origin_closed (not_prefix_of_isOpen opened origin_closed)
    (not_prefix_of_isOpen opened destination_closed)]
  exact opened place List.prefix_rfl

/-- No directory is opened. -/
theorem keepsOpen_of_replace (sheltered : tree.IsSheltered origin) :
    (tree.replace origin destination content).KeepsOpen tree := by
  refine ⟨(replace_current content origin_closed).symm, fun place opened => ?_⟩
  have entered : ¬destination <+: place := not_prefix_of_isOpen opened
    (by simp [node?_replace_destination content origin_closed destination_closed])
  have left : ¬origin <+: place := not_prefix_of_isOpen opened (by
    rw [node?_replace content origin_closed destination_closed sheltered]
    split <;> simp)
  rw [← node?_replace_of_apart content origin_closed left entered]
  exact opened place List.prefix_rfl

end Replace

section ReplaceAlong

variable {tree : Tree} {temporary target : Text} {origin destination : Location}
  (content : List UInt8) (writable : tree.fileLocation temporary = .ok origin)
  (reached : tree.fileLocation target = .ok destination)

include writable reached

/-- All paths lead where they led before. -/
theorem locate_replace_iff {path : Text} {location : Location} :
    (tree.replace origin destination content).locate path = .ok location ↔
      tree.locate path = .ok location := by
  obtain ⟨located, origin_closed⟩ := fileLocation_eq_ok.mp writable
  have destination_closed := (fileLocation_eq_ok.mp reached).2
  exact locate_eq_ok_iff_of_keepsOpen (keepsOpen_replace content origin_closed destination_closed)
    (keepsOpen_of_replace content origin_closed destination_closed (isSheltered_of_locate located))

/-- What paths find: the file at the target, nothing at the temporary path, and what they found
before anywhere else. -/
theorem find?_replace (path : Text) :
    (tree.replace origin destination content).find? path =
      if tree.SamePlace target path then some (.file content)
      else if tree.SamePlace temporary path then none else tree.find? path := by
  obtain ⟨located, origin_closed⟩ := fileLocation_eq_ok.mp writable
  obtain ⟨target_located, destination_closed⟩ := fileLocation_eq_ok.mp reached
  cases found : tree.locate path with
  | error fault =>
    cases again : (tree.replace origin destination content).locate path with
    | error fault => simp [find?, SamePlace, found, again]
    | ok location =>
      rw [locate_replace_iff content writable reached, found] at again
      cases again
  | ok place =>
    have found_again := (locate_replace_iff content writable reached).mpr found
    have node_eq := node?_replace content origin_closed destination_closed
      (isSheltered_of_locate found)
    simp only [find?, found_again, node_eq, SamePlace, found, located, target_located,
      Except.ok.injEq, exists_eq_left']

end ReplaceAlong

end Tree
end Files

namespace Workspace

open Files

/-! ## Replacing -/

/-- What a successful replacement leaves: the text at the target, from where the same target can be
replaced again, and every other file but the one in the place of the temporary file. -/
structure Replaced (temporary target text : Text) (tree final : Tree) : Prop where
  content : final.readExact target = .ok text
  /-- The temporary file can be written again. -/
  writable : ∃ location, final.fileLocation temporary = .ok location
  kept : tree.KeepsOpen final
  /-- No directory is new. -/
  closed : final.KeepsOpen tree
  others : ∀ path stored, ¬tree.SamePlace target path →
    (final.readExact path = .ok stored ↔
      tree.readExact path = .ok stored ∧ ¬tree.SamePlace temporary path)

theorem move_eq_ok {tree moved : Tree} {source target : Text} :
    tree.move source target = .ok moved ↔
      ∃ origin destination, tree.locate source = .ok origin ∧
        tree.destination target = .ok destination ∧ (tree.node? origin).isSome ∧
        tree.relocate origin destination = moved := by
  unfold Tree.move
  split
  · rename_i origin destination located reached
    simp only [located, reached, Except.ok.injEq, exists_and_left, exists_eq_left']
    split
    · rename_i stands
      simp [stands]
    · rename_i missing
      simp [missing]
  · rename_i missing
    simp [missing]
  · rename_i missing _
    simp [missing]

theorem moveFile_eq_ok {tree moved : Tree} {source target : Text} :
    tree.moveFile source target = (.ok (), moved) ↔ tree.move source target = .ok moved := by
  unfold Tree.moveFile
  cases tree.move source target <;> simp

/-- A file that was written and moved over a place that is no directory has replaced what was
there. -/
theorem replaced_of_fileLocation {tree : Tree} {temporary target : Text}
    {origin destination : Location} (writable : tree.fileLocation temporary = .ok origin)
    (reached : tree.fileLocation target = .ok destination) (text : Text) :
    Replaced temporary target text tree (tree.replace origin destination (Utf8.encode text)) := by
  obtain ⟨located, origin_closed⟩ := Tree.fileLocation_eq_ok.mp writable
  obtain ⟨target_located, destination_closed⟩ := Tree.fileLocation_eq_ok.mp reached
  have find_eq := Tree.find?_replace (Utf8.encode text) writable reached
  refine ⟨?_, ?_, Tree.keepsOpen_replace _ origin_closed destination_closed,
    Tree.keepsOpen_of_replace _ origin_closed destination_closed
      (Tree.isSheltered_of_locate located), fun path stored apart => ?_⟩
  · refine Tree.readExact_eq_ok_iff_find?.mpr ⟨_, ?_, Utf8.decode_encode text⟩
    rw [find_eq, if_pos ⟨destination, target_located, target_located⟩]
  · refine ⟨origin, Tree.fileLocation_eq_ok.mpr
      ⟨(Tree.locate_replace_iff _ writable reached).mpr located, ?_⟩⟩
    rw [Tree.node?_replace _ origin_closed destination_closed (Tree.isSheltered_of_locate located)]
    split <;> simp
  · simp only [Tree.readExact_eq_ok_iff_find?, find_eq, if_neg apart]
    split
    · rename_i same
      simp [same]
    · rename_i spared
      simp [spared]

/-- A replacement succeeds exactly when no mishap happens, the temporary file can be written and the
target is a place for a file. -/
theorem replaceText_eq_ok {tree final : Tree} {temporary target text : Text}
    {mishap : Option Mishap} :
    replaceText tree temporary target text mishap = (.ok (), final) ↔
      mishap = none ∧ ∃ origin destination, tree.fileLocation temporary = .ok origin ∧
        tree.destination target = .ok destination ∧
        tree.replace origin destination (Utf8.encode text) = final := by
  cases writable : tree.fileLocation temporary with
  | error kind => simp [replaceText, Tree.writeText, writable]
  | ok origin =>
    obtain ⟨located, closed⟩ := Tree.fileLocation_eq_ok.mp writable
    cases mishap with
    | some mishap => cases mishap <;> simp [replaceText, Tree.writeText, Tree.moveFile, writable]
    | none =>
      have located_again : (tree.insert origin (.file (Utf8.encode text))).locate temporary =
          .ok origin :=
        Tree.locate_of_keepsOpen (Tree.keepsOpen_insert closed) located
      simp [replaceText, Tree.writeText, writable, moveFile_eq_ok, move_eq_ok, located_again,
        Tree.destination_insert closed, Tree.node?_insert closed, Tree.replace]

/-- A replacement that succeeds has replaced the file. -/
theorem replaced_of_replaceText {tree final : Tree} {temporary target text : Text}
    {mishap : Option Mishap}
    (done : replaceText tree temporary target text mishap = (.ok (), final)) :
    Replaced temporary target text tree final := by
  obtain ⟨-, origin, destination, writable, reached, rfl⟩ := replaceText_eq_ok.mp done
  exact replaced_of_fileLocation writable (Tree.destination_eq_ok.mp reached).2 text

end Workspace
end PackageRepos
