import PackageRepos.Files.TextFile
import PackageRepos.Proofs.Files.Walk
import PackageRepos.Proofs.Text.Lines

/-!
# Paths that cannot be followed

A path is malformed when it holds the null character. Reading a path from text neither adds nor
loses that character, and whatever is done with a malformed path fails for this reason. A name that
is too long cannot be looked up.
-/

namespace PackageRepos
namespace Files

theorem Path.mem_rootOf {char : Char} {text : Text} (member : char ∈ rootOf text) : char = '/' := by
  unfold rootOf at member
  split at member <;> simp_all

theorem Path.not_mem_of_isIdle {char : Char} (undotted : char ≠ '.') {name : Text}
    (idle : isIdle name = true) : char ∉ name := by
  have cases_name : name = [] ∨ name = ['.'] := by simpa [isIdle] using idle
  rcases cases_name with rfl | rfl <;> simp [undotted]

/-- The text of a path holds what the path was read from, but for slashes and dots. -/
theorem Path.mem_toText_ofText {char : Char} (other : char ≠ '/') (undotted : char ≠ '.')
    (text : Text) : char ∈ (Path.ofText text).toText ↔ char ∈ text := by
  have unseparated : char ∉ ['/'] := by simpa using other
  have rootless : char ∉ (Path.ofText text).root := fun member => other (mem_rootOf member)
  have split : char ∈ text ↔ ∃ name ∈ text.splitOn '/', char ∈ name := by
    rw [← Text.mem_join_iff unseparated, Text.join, List.intercalate_splitOn]
  have names : char ∈ Text.join ['/'] (Path.ofText text).names ↔ char ∈ text := by
    rw [Text.mem_join_iff unseparated, split]
    constructor
    · rintro ⟨name, member, inner⟩
      exact ⟨name, (List.mem_filter.mp member).1, inner⟩
    · rintro ⟨name, member, inner⟩
      refine ⟨name, List.mem_filter.mpr ⟨member, ?_⟩, inner⟩
      cases idle : isIdle name with
      | false => rfl
      | true => exact absurd inner (not_mem_of_isIdle undotted idle)
  unfold toText
  split
  · rename_i empty
    have nameless : (Path.ofText text).names = [] := by
      simpa using (Bool.and_eq_true_iff.mp empty).2
    rw [nameless] at names
    simpa [undotted, Text.join] using names
  · rw [List.mem_append, or_iff_right rootless, names]

/-- A single name is the path of its own. -/
theorem Path.toText_ofText_of_not_mem {name : Text} (undivided : '/' ∉ name)
    (busy : isIdle name = false) : (Path.ofText name).toText = name := by
  have rootless : (Path.ofText name).root = [] := by
    cases name with
    | nil => rfl
    | cons char rest =>
      have other : (char == '/') = false := by
        simpa using fun same : char = '/' => undivided (by simp [same])
      simp [ofText, rootOf, other]
  have names : (Path.ofText name).names = [name] := by
    simp [ofText, List.splitOn_eq_singleton undivided, busy]
  simp [toText, names, rootless, Text.join]

namespace Tree

theorem walk_ne_malformedPath (tree : Tree) (location : Location) (names : List Text) :
    tree.walk location names ≠ .error .malformedPath := by
  induction names generalizing location with
  | nil => simp [walk]
  | cons name rest ih =>
    unfold walk
    split
    · simp
    · simp
    · split
      · simp
      · exact ih _

theorem locate_eq_malformedPath_iff {tree : Tree} {path : Text} :
    tree.locate path = .error .malformedPath ↔ '\x00' ∈ path := by
  unfold locate
  split
  · rename_i null
    simpa using null
  · rename_i proper
    have absent : '\x00' ∉ path := by simpa using proper
    split
    · simp [absent]
    · split
      · simp [absent]
      · simp [absent, walk_ne_malformedPath]

theorem not_mem_of_locate {tree : Tree} {path : Text} {location : Location}
    (located : tree.locate path = .ok location) : '\x00' ∉ path := by
  simpa using (locate_eq_ok.mp located).1

/-- A directory cannot be listed for its path alone exactly when that is malformed. -/
theorem isMalformed_of_entries {tree : Tree} {path : Text} {fault : Fault}
    (failed : tree.entries path = .error fault) : fault.isMalformed = true ↔ '\x00' ∈ path := by
  unfold entries at failed
  split at failed
  · rename_i kind lost
    cases failed
    rw [← @locate_eq_malformedPath_iff tree, lost]
    simp [Fault.isMalformed]
  · rename_i location located
    have absent := not_mem_of_locate located
    split at failed <;> cases failed <;> simp [Fault.isMalformed, absent]

/-- A file cannot be read for its path alone exactly when that is malformed. -/
theorem isMalformed_of_read {tree : Tree} {path : Text} {fault : Fault}
    (failed : tree.read path = .error fault) : fault.isMalformed = true ↔ '\x00' ∈ path := by
  unfold read at failed
  split at failed
  · rename_i kind lost
    cases failed
    rw [← @locate_eq_malformedPath_iff tree, lost]
    simp [Fault.isMalformed]
  · rename_i location located
    have absent := not_mem_of_locate located
    split at failed <;> cases failed <;> simp [Fault.isMalformed, absent]

theorem fileLocation_eq_malformedPath_iff {tree : Tree} {path : Text} :
    tree.fileLocation path = .error .malformedPath ↔ '\x00' ∈ path := by
  rw [← @locate_eq_malformedPath_iff tree, fileLocation]
  cases tree.locate path with
  | error kind => rfl
  | ok location =>
    simp only [reduceCtorEq, iff_false]
    split <;> simp

/-- Between proper paths a move fails for another reason. -/
theorem isMalformed_of_move {tree : Tree} {source target : Text} {fault : Fault}
    (proper : '\x00' ∉ source) (target_proper : '\x00' ∉ target)
    (failed : tree.move source target = .error fault) : fault.isMalformed = false := by
  unfold move at failed
  split at failed
  · split at failed <;> cases failed
    rfl
  · rename_i kind lost
    cases failed
    rw [← @locate_eq_malformedPath_iff tree, lost] at proper
    simpa [Fault.isMalformed] using proper
  · rename_i kind blocked _
    cases failed
    unfold destination at blocked
    split at blocked
    · cases blocked
      rfl
    · rw [← @fileLocation_eq_malformedPath_iff tree, blocked] at target_proper
      simpa [Fault.isMalformed] using target_proper

theorem not_mem_of_read {tree : Tree} {path : Text} {content : List UInt8}
    (read : tree.read path = .ok content) : '\x00' ∉ path := by
  unfold Tree.read at read
  split at read
  · cases read
  · rename_i located
    exact not_mem_of_locate located

theorem not_mem_of_entries {tree : Tree} {path : Text} {names : List Text}
    (listed : tree.entries path = .ok names) : '\x00' ∉ path := by
  unfold entries at listed
  split at listed
  · cases listed
  · rename_i located
    exact not_mem_of_locate located

/-- No name in the tree holds the null character. -/
def IsNamed (tree : Tree) : Prop :=
  ∀ place ∈ tree.places, ∀ name ∈ place, '\x00' ∉ name

instance (tree : Tree) : Decidable tree.IsNamed :=
  inferInstanceAs (Decidable (∀ place ∈ tree.places, ∀ name ∈ place, '\x00' ∉ name))

theorem IsNamed.not_mem_of_entries {tree : Tree} (named : tree.IsNamed) {path name : Text}
    {names : List Text} (listed : tree.entries path = .ok names) (member : name ∈ names) :
    '\x00' ∉ name := by
  unfold entries at listed
  split at listed
  · cases listed
  · split at listed <;> cases listed
    obtain ⟨place, place_member, last⟩ := List.mem_filterMap.mp member
    split at last
    · exact named place place_member name (List.mem_of_getLast? last)
    · cases last

/-- A path that is a single name cannot be looked up when the name is too long. -/
theorem examine_of_exceeds (tree : Tree) {name : Text} (undivided : '/' ∉ name)
    (proper : '\x00' ∉ name) (short : exceeds name pathLimit = false)
    (long : exceeds name nameLimit = true) :
    tree.examine (Path.ofText name).toText = .error { kind := .tooLong, path := name } := by
  have busy : Path.isIdle name = false := by
    cases idle : Path.isIdle name with
    | false => rfl
    | true =>
      have idle_name : name = [] ∨ name = ['.'] := by simpa [Path.isIdle] using idle
      rcases idle_name with rfl | rfl <;> exact absurd long (by decide)
  have nonempty : name ≠ [] := by
    rintro rfl
    cases busy
  have relative : name.head? ≠ some '/' := fun found => undivided (List.mem_of_head? found)
  have here : tree.node? tree.current = some .directory :=
    node?_of_isAmbient (isAmbient_iff.mpr List.prefix_rfl)
  have located : tree.locate name = .error .tooLong := by
    simp [locate, proper, short, nonempty, origin, relative, List.splitOn_eq_singleton undivided,
      walk, here, long]
  simp [Path.toText_ofText_of_not_mem undivided busy, examine, located]

/-- What stands at a path can be looked up unless a name in it is too long. -/
theorem examine_eq_ok_iff {tree : Tree} {path : Text} {node : Option Node} :
    tree.examine path = .ok node ↔ tree.locate path ≠ .error .tooLong ∧ node = tree.find? path := by
  unfold examine find?
  cases tree.locate path with
  | ok location => simpa using eq_comm
  | error kind => cases kind <;> simp [@eq_comm _ node]

/-- Where nothing stands, there is nothing to be read. -/
theorem readText_of_find?_eq_none {tree : Tree} {path : Text} (missing : tree.find? path = none) :
    ∃ fault, tree.readText path = .error (.file fault) := by
  unfold find? at missing
  cases located : tree.locate path with
  | ok location =>
    rw [located] at missing
    exact ⟨_, by simp only [readText, readExact, read, located, missing]; rfl⟩
  | error kind => exact ⟨_, by simp only [readText, readExact, read, located]; rfl⟩

/-- A malformed path leads to nothing. -/
theorem not_mem_of_examine {tree : Tree} {path : Text} {node : Node}
    (found : tree.examine path = .ok (some node)) : '\x00' ∉ path := by
  intro null
  rw [examine, locate_eq_malformedPath_iff.mpr null] at found
  cases found

end Tree
end Files
end PackageRepos
