import PackageRepos.Files.Tree

/-!
# Where paths lead

Following a path enters directories only, and all places above the one it leads to are directories.
So a path leads to the same place in every tree that has these directories.
-/

namespace PackageRepos
namespace Files
namespace Tree

/-- The place is a directory, and so are all places above it. -/
def IsOpen (tree : Tree) (location : Location) : Prop :=
  ∀ place, place <+: location → tree.node? place = some .directory

/-- All places above the place are directories. -/
def IsSheltered (tree : Tree) (location : Location) : Prop :=
  ∀ place, place <+: location → place ≠ location → tree.node? place = some .directory

/-- The second tree has all the open directories of the first one, and the same current one. -/
structure KeepsOpen (tree other : Tree) : Prop where
  current : other.current = tree.current
  directories : ∀ location, tree.IsOpen location → other.node? location = some .directory

@[simp]
theorem node?_of_isAmbient {tree : Tree} {location : Location}
    (ambient : tree.isAmbient location = true) : tree.node? location = some .directory := by
  simp [node?, ambient]

theorem isAmbient_iff {tree : Tree} {location : Location} :
    tree.isAmbient location = true ↔ location <+: tree.current :=
  List.isPrefixOf_iff_prefix

/-- The current directory is reached through directories. -/
theorem isSheltered_of_isAmbient {tree : Tree} {location : Location}
    (ambient : tree.isAmbient location = true) : tree.IsSheltered location :=
  fun _ above _ => node?_of_isAmbient (isAmbient_iff.mpr (above.trans (isAmbient_iff.mp ambient)))

theorem IsSheltered.isOpen {tree : Tree} {location : Location}
    (sheltered : tree.IsSheltered location)
    (directory : tree.node? location = some .directory) : tree.IsOpen location := by
  intro place above
  by_cases same : place = location
  · exact same ▸ directory
  · exact sheltered place above same

theorem IsOpen.of_isPrefix {tree : Tree} {location place : Location} (opened : tree.IsOpen location)
    (above : place <+: location) : tree.IsOpen place :=
  fun higher start => opened higher (start.trans above)

theorem IsOpen.isSheltered {tree : Tree} {location : Location} (opened : tree.IsOpen location) :
    tree.IsSheltered location :=
  fun place above _ => opened place above

theorem KeepsOpen.isOpen {tree other : Tree} {location : Location} (kept : tree.KeepsOpen other)
    (opened : tree.IsOpen location) : other.IsOpen location :=
  fun place above => kept.directories place (opened.of_isPrefix above)

theorem KeepsOpen.trans {tree between other : Tree} (first : tree.KeepsOpen between)
    (second : between.KeepsOpen other) : tree.KeepsOpen other where
  current := second.current.trans first.current
  directories location opened := second.directories location (first.isOpen opened)

/-- A place below another one is not open when the other one is no directory. -/
theorem not_prefix_of_isOpen {tree : Tree} {location blocked : Location}
    (opened : tree.IsOpen location) (closed : tree.node? blocked ≠ some .directory) :
    ¬blocked <+: location :=
  fun above => closed (opened blocked above)

/-- Two sheltered places that are no directories do not lie above one another. -/
theorem IsSheltered.eq_of_isPrefix {tree : Tree} {location blocked : Location}
    (sheltered : tree.IsSheltered location) (closed : tree.node? blocked ≠ some .directory)
    (above : blocked <+: location) : blocked = location := by
  by_cases same : blocked = location
  · exact same
  · exact absurd (sheltered blocked above same) closed

/-! ## Steps -/

/-- A name leads from an open place to a sheltered one. -/
theorem IsOpen.isSheltered_step {tree : Tree} {location : Location} (opened : tree.IsOpen location)
    (name : Text) : tree.IsSheltered (step location name) := by
  unfold step
  split
  · exact opened.isSheltered
  · split
    · exact (opened.of_isPrefix (List.dropLast_prefix location)).isSheltered
    · intro place above different
      rcases List.prefix_concat_iff.mp above with same | higher
      · exact absurd same different
      · exact opened place higher

/-- The name of the directory above leads from an open place to a directory. -/
theorem IsOpen.node?_step_parentName {tree : Tree} {location : Location}
    (opened : tree.IsOpen location) :
    tree.node? (step location Path.parentName) = some .directory := by
  have busy : Path.isIdle Path.parentName = false := by decide
  have step_eq : step location Path.parentName = location.dropLast := by simp [step, busy]
  rw [step_eq]
  exact opened _ (List.dropLast_prefix location)

/-- A name that leads from an open place to anything but a directory names it there. -/
theorem IsOpen.step_eq_of_closed {tree : Tree} {location : Location} {name : Text}
    (opened : tree.IsOpen location) (closed : tree.node? (step location name) ≠ some .directory) :
    step location name = location ++ [name] := by
  by_cases idle : Path.isIdle name = true
  · rw [step, if_pos idle] at closed
    exact absurd (opened location List.prefix_rfl) closed
  · by_cases parent : name = Path.parentName
    · subst parent
      exact absurd opened.node?_step_parentName closed
    · simp [step, idle, parent]

/-! ## Walks -/

/-- A walk with a name before it starts with a step from a directory. -/
theorem walk_cons_eq_ok {tree : Tree} {location result : Location} {name : Text}
    {rest : List Text} :
    tree.walk location (name :: rest) = .ok result ↔
      tree.node? location = some .directory ∧ exceeds name nameLimit = false ∧
        tree.walk (step location name) rest = .ok result := by
  rw [walk]
  split
  · rename_i missing
    simp [missing]
  · rename_i found
    simp [found]
  · rename_i found
    by_cases long : exceeds name nameLimit = true
    · simp [long]
    · simp [found, long]

theorem walk_append_eq_ok {tree : Tree} {location result : Location} {front back : List Text} :
    tree.walk location (front ++ back) = .ok result ↔
      ∃ middle, tree.walk location front = .ok middle ∧ tree.walk middle back = .ok result := by
  induction front generalizing location with
  | nil => simp [walk]
  | cons name rest ih =>
    simp only [List.cons_append, walk_cons_eq_ok, ih]
    constructor
    · rintro ⟨directory, short, middle, before, after⟩
      exact ⟨middle, ⟨directory, short, before⟩, after⟩
    · rintro ⟨middle, ⟨directory, short, before⟩, after⟩
      exact ⟨directory, short, middle, before, after⟩

theorem isSheltered_walk {tree : Tree} {location result : Location} {names : List Text}
    (sheltered : tree.IsSheltered location) (walked : tree.walk location names = .ok result) :
    tree.IsSheltered result := by
  induction names generalizing location with
  | nil =>
    cases walked
    exact sheltered
  | cons name rest ih =>
    obtain ⟨directory, -, later⟩ := walk_cons_eq_ok.mp walked
    exact ih ((sheltered.isOpen directory).isSheltered_step name) later

/-- A walk goes the same way in a tree that keeps the open directories. -/
theorem walk_of_keepsOpen {tree other : Tree} {location result : Location} {names : List Text}
    (kept : tree.KeepsOpen other) (sheltered : tree.IsSheltered location)
    (walked : tree.walk location names = .ok result) : other.walk location names = .ok result := by
  induction names generalizing location with
  | nil => exact walked
  | cons name rest ih =>
    obtain ⟨directory, short, later⟩ := walk_cons_eq_ok.mp walked
    have opened := sheltered.isOpen directory
    exact walk_cons_eq_ok.mpr
      ⟨kept.directories location opened, short, ih (opened.isSheltered_step name) later⟩

/-- Idle names lead nowhere else. -/
theorem walk_of_isIdle {tree : Tree} {location result : Location} {names : List Text}
    (idle : ∀ name ∈ names, Path.isIdle name = true)
    (walked : tree.walk location names = .ok result) : result = location := by
  induction names generalizing location with
  | nil =>
    cases walked
    rfl
  | cons name rest ih =>
    obtain ⟨-, -, later⟩ := walk_cons_eq_ok.mp walked
    rw [step, if_pos (idle name List.mem_cons_self)] at later
    exact ih (fun other member => idle other (List.mem_cons_of_mem name member)) later

/-! ## Paths -/

/-- Paths lead from the root or from the current directory. -/
theorem isSheltered_origin (tree : Tree) (path : Text) : tree.IsSheltered (tree.origin path) := by
  apply isSheltered_of_isAmbient
  rw [isAmbient_iff, origin]
  split
  · exact List.nil_prefix
  · exact List.prefix_rfl

/-- A path text that leads somewhere is followed name by name. -/
theorem locate_eq_ok {tree : Tree} {path : Text} {location : Location} :
    tree.locate path = .ok location ↔
      path.contains '\x00' = false ∧ exceeds path pathLimit = false ∧ path.isEmpty = false ∧
        tree.walk (tree.origin path) (path.splitOn '/') = .ok location := by
  unfold locate
  split
  · simp_all
  · split
    · simp_all
    · split <;> simp_all

theorem isSheltered_of_locate {tree : Tree} {path : Text} {location : Location}
    (located : tree.locate path = .ok location) : tree.IsSheltered location :=
  isSheltered_walk (tree.isSheltered_origin path) (locate_eq_ok.mp located).2.2.2

theorem locate_of_keepsOpen {tree other : Tree} {path : Text} {location : Location}
    (kept : tree.KeepsOpen other) (located : tree.locate path = .ok location) :
    other.locate path = .ok location := by
  obtain ⟨proper, short, nonempty, walked⟩ := locate_eq_ok.mp located
  have origin_eq : other.origin path = tree.origin path := by rw [origin, origin, kept.current]
  refine locate_eq_ok.mpr ⟨proper, short, nonempty, ?_⟩
  rw [origin_eq]
  exact walk_of_keepsOpen kept (tree.isSheltered_origin path) walked

theorem locate_eq_ok_iff_of_keepsOpen {tree other : Tree} (kept : tree.KeepsOpen other)
    (back : other.KeepsOpen tree) {path : Text} {location : Location} :
    other.locate path = .ok location ↔ tree.locate path = .ok location :=
  ⟨locate_of_keepsOpen back, locate_of_keepsOpen kept⟩

/-- The two paths lead to the same place. -/
def SamePlace (tree : Tree) (path other : Text) : Prop :=
  ∃ location, tree.locate path = .ok location ∧ tree.locate other = .ok location

theorem samePlace_iff_of_keepsOpen {tree other : Tree} (kept : tree.KeepsOpen other)
    (back : other.KeepsOpen tree) {left right : Text} :
    other.SamePlace left right ↔ tree.SamePlace left right := by
  simp only [SamePlace, locate_eq_ok_iff_of_keepsOpen kept back]

instance (tree : Tree) (path other : Text) : Decidable (tree.SamePlace path other) :=
  match located : tree.locate path, other_located : tree.locate other with
  | .ok place, .ok other =>
    decidable_of_iff (other = place) (by simp [SamePlace, located, other_located])
  | .ok _, .error _ => isFalse (by simp [SamePlace, other_located])
  | .error _, _ => isFalse (by simp [SamePlace, located])

/-- A path that ends with the name of the directory above leads to a directory. -/
theorem node?_of_name?_eq_parentName {tree : Tree} {path : Text} {location : Location}
    (located : tree.locate path = .ok location)
    (last : (Path.ofText path).name? = some Path.parentName) :
    tree.node? location = some .directory := by
  have walked := (locate_eq_ok.mp located).2.2.2
  obtain ⟨kept, kept_eq⟩ := List.getLast?_eq_some_iff.mp last
  obtain ⟨front, back, split, -, back_eq⟩ := List.filter_eq_append_iff.mp kept_eq
  obtain ⟨before, after, rfl, -, -, idle_after⟩ := List.filter_eq_cons_iff.mp back_eq
  rw [split, ← List.append_assoc, walk_append_eq_ok] at walked
  obtain ⟨middle, reached, last_walk⟩ := walked
  obtain ⟨directory, -, after_walk⟩ := walk_cons_eq_ok.mp last_walk
  have opened := (isSheltered_walk (tree.isSheltered_origin path) reached).isOpen directory
  have idle : ∀ name ∈ after, Path.isIdle name = true := by
    intro name member
    simpa using List.filter_eq_nil_iff.mp idle_after name member
  rw [walk_of_isIdle idle after_walk]
  exact opened.node?_step_parentName

end Tree
end Files
end PackageRepos
