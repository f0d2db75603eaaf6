/-!
# Maps in insertion order

A map lists its pairs in the order in which the keys were first inserted. Inserting under a key
that is present keeps the key's place, so every key is listed once. The laws below describe every
operation through `get?` and `keys`, which together determine a map.
-/

namespace PackageRepos

/-- Pairs of keys and values in insertion order. -/
structure OrderedMap (κ ν : Type) where
  /-- The pairs, in order. -/
  toList : List (κ × ν)
  /-- No key is listed twice. -/
  distinct : (toList.map Prod.fst).Nodup
deriving DecidableEq, Repr

namespace OrderedMap

variable {κ ν : Type}

instance : EmptyCollection (OrderedMap κ ν) := ⟨⟨[], List.nodup_nil⟩⟩

instance : Inhabited (OrderedMap κ ν) := ⟨∅⟩

/-- The keys, in order. -/
def keys (map : OrderedMap κ ν) : List κ := map.toList.map Prod.fst

theorem keys_nodup (map : OrderedMap κ ν) : map.keys.Nodup := map.distinct

/-- Applies a function to every key with its value. -/
def mapEntries {μ : Type} (f : κ → ν → μ) (map : OrderedMap κ ν) : OrderedMap κ μ where
  toList := map.toList.map fun (key, value) => (key, f key value)
  distinct := by
    rw [List.map_map]
    exact map.distinct

/-- Applies a function to every value. -/
def mapValues {μ : Type} (f : ν → μ) (map : OrderedMap κ ν) : OrderedMap κ μ :=
  map.mapEntries fun _ => f

/-- Keeps the keys that satisfy a test. -/
def filterKeys (test : κ → Bool) (map : OrderedMap κ ν) : OrderedMap κ ν where
  toList := map.toList.filter fun pair => test pair.1
  distinct := map.distinct.sublist (List.filter_sublist.map Prod.fst)

@[simp]
theorem keys_empty : (∅ : OrderedMap κ ν).keys = [] := rfl

@[simp]
theorem keys_mapEntries {μ : Type} (f : κ → ν → μ) (map : OrderedMap κ ν) :
    (map.mapEntries f).keys = map.keys := by
  simp [mapEntries, keys, Function.comp_def]

@[simp]
theorem keys_mapValues {μ : Type} (f : ν → μ) (map : OrderedMap κ ν) :
    (map.mapValues f).keys = map.keys :=
  keys_mapEntries _ map

variable [DecidableEq κ]

/-- The value of a key. -/
def get? (map : OrderedMap κ ν) (key : κ) : Option ν := map.toList.lookup key

/-- The key is present. -/
def contains (map : OrderedMap κ ν) (key : κ) : Bool := (map.get? key).isSome

/-- Pairs with a key set in place, or at the end when it is missing. -/
def insertPair (key : κ) (value : ν) : List (κ × ν) → List (κ × ν)
  | [] => [(key, value)]
  | pair :: rest => if key = pair.1 then (key, value) :: rest else pair :: insertPair key value rest

theorem map_fst_insertPair (key : κ) (value : ν) (pairs : List (κ × ν)) :
    (insertPair key value pairs).map Prod.fst =
      if key ∈ pairs.map Prod.fst then pairs.map Prod.fst else pairs.map Prod.fst ++ [key] := by
  induction pairs with
  | nil => simp [insertPair]
  | cons pair rest ih => grind [insertPair]

theorem nodup_insertPair (key : κ) (value : ν) {pairs : List (κ × ν)}
    (distinct : (pairs.map Prod.fst).Nodup) :
    ((insertPair key value pairs).map Prod.fst).Nodup := by
  rw [map_fst_insertPair]
  split
  · exact distinct
  · rename_i missing
    refine List.nodup_append.mpr ⟨distinct, by simp, ?_⟩
    rintro other member _ same rfl
    exact missing (List.mem_singleton.mp same ▸ member)

/-- Sets the value of a key. -/
def insert (map : OrderedMap κ ν) (key : κ) (value : ν) : OrderedMap κ ν where
  toList := insertPair key value map.toList
  distinct := nodup_insertPair key value map.distinct

/-- Sets the values of keys, one after the other. -/
def insertAll (map : OrderedMap κ ν) (pairs : List (κ × ν)) : OrderedMap κ ν :=
  pairs.foldl (fun map pair => map.insert pair.1 pair.2) map

/-- The map that lists the given pairs. Of pairs with one key, the first gives the place and the
last the value. -/
def ofList (pairs : List (κ × ν)) : OrderedMap κ ν := insertAll ∅ pairs

/-- Sets the value of a key from the value it had. -/
def alter (map : OrderedMap κ ν) (key : κ) (f : Option ν → ν) : OrderedMap κ ν :=
  map.insert key (f (map.get? key))

/-- Removes a key. -/
def erase (map : OrderedMap κ ν) (key : κ) : OrderedMap κ ν :=
  map.filterKeys fun other => key != other

@[simp]
theorem get?_empty (key : κ) : (∅ : OrderedMap κ ν).get? key = none := rfl

theorem lookup_eq_none_iff {pairs : List (κ × ν)} {key : κ} :
    pairs.lookup key = none ↔ key ∉ pairs.map Prod.fst := by
  induction pairs with
  | nil => simp
  | cons pair rest ih => grind

theorem get?_eq_none_iff {map : OrderedMap κ ν} {key : κ} :
    map.get? key = none ↔ key ∉ map.keys :=
  lookup_eq_none_iff

theorem contains_iff {map : OrderedMap κ ν} {key : κ} : map.contains key ↔ key ∈ map.keys := by
  simp only [contains, get?, Option.isSome_iff_ne_none, ne_eq, lookup_eq_none_iff, keys]
  grind

theorem mem_keys_of_get? {map : OrderedMap κ ν} {key : κ} {value : ν}
    (found : map.get? key = some value) : key ∈ map.keys := by
  apply contains_iff.mp
  simp [contains, found]

/-- A key that is listed has a value. -/
theorem exists_get?_of_mem {map : OrderedMap κ ν} {key : κ} (member : key ∈ map.keys) :
    ∃ value, map.get? key = some value :=
  Option.isSome_iff_exists.mp (contains_iff.mpr member)

/-- The pairs that are listed are those that can be looked up. -/
theorem get?_eq_some_iff {map : OrderedMap κ ν} {key : κ} {value : ν} :
    map.get? key = some value ↔ (key, value) ∈ map.toList := by
  obtain ⟨pairs, distinct⟩ := map
  simp only [get?]
  induction pairs with
  | nil => simp
  | cons pair rest ih =>
    obtain ⟨first, content⟩ := pair
    obtain ⟨fresh, rest_distinct⟩ := List.nodup_cons.mp distinct
    by_cases same : key = first
    · subst same
      have absent : (key, value) ∉ rest := fun member =>
        fresh (List.mem_map.mpr ⟨_, member, rfl⟩)
      simp [absent, eq_comm]
    · have differ : (key == first) = false := by simpa using same
      simp [List.lookup_cons, differ, same, ih rest_distinct]

/-- Maps with the same keys in the same order and the same values are the same. -/
theorem ext_get? {left right : OrderedMap κ ν} (same_keys : left.keys = right.keys)
    (same_values : ∀ key, left.get? key = right.get? key) : left = right := by
  obtain ⟨leftPairs, left_distinct⟩ := left
  obtain ⟨rightPairs, right_distinct⟩ := right
  simp only [mk.injEq]
  simp only [keys, get?] at same_keys same_values
  induction leftPairs generalizing rightPairs with
  | nil => simpa using same_keys.symm
  | cons pair rest ih =>
    obtain ⟨key, value⟩ := pair
    cases rightPairs with
    | nil => simp at same_keys
    | cons other others =>
      obtain ⟨otherKey, otherValue⟩ := other
      obtain ⟨rfl, keys_eq⟩ := List.cons.inj same_keys
      obtain ⟨left_fresh, left_rest⟩ := List.nodup_cons.mp left_distinct
      obtain ⟨right_fresh, right_rest⟩ := List.nodup_cons.mp right_distinct
      have value_eq : value = otherValue := by simpa using same_values key
      have rest_eq : rest = others := by
        apply ih left_rest others right_rest keys_eq
        intro asked
        by_cases same : asked = key
        · rw [same, lookup_eq_none_iff.mpr left_fresh, lookup_eq_none_iff.mpr right_fresh]
        · have differ : (asked == key) = false := by simpa using same
          simpa [List.lookup_cons, differ] using same_values asked
      rw [value_eq, rest_eq]

theorem get?_insert (map : OrderedMap κ ν) (key other : κ) (value : ν) :
    (map.insert key value).get? other = if other = key then some value else map.get? other := by
  simp only [insert, get?]
  induction map.toList with
  | nil => grind [insertPair]
  | cons pair rest ih => grind [insertPair]

@[simp]
theorem get?_insert_self (map : OrderedMap κ ν) (key : κ) (value : ν) :
    (map.insert key value).get? key = some value := by
  simp [get?_insert]

theorem get?_insert_of_ne (map : OrderedMap κ ν) {key other : κ} (value : ν)
    (different : other ≠ key) : (map.insert key value).get? other = map.get? other := by
  simp [get?_insert, different]

theorem get?_filterKeys (map : OrderedMap κ ν) (test : κ → Bool) (key : κ) :
    (map.filterKeys test).get? key = if test key then map.get? key else none := by
  simp only [filterKeys, get?]
  induction map.toList with
  | nil => simp
  | cons pair rest ih => grind

theorem get?_erase (map : OrderedMap κ ν) (key other : κ) :
    (map.erase key).get? other = if other = key then none else map.get? other := by
  grind [erase, get?_filterKeys]

theorem get?_mapEntries {μ : Type} (f : κ → ν → μ) (map : OrderedMap κ ν) (key : κ) :
    (map.mapEntries f).get? key = (map.get? key).map (f key) := by
  simp only [mapEntries, get?]
  induction map.toList with
  | nil => simp
  | cons pair rest ih => grind

@[simp]
theorem get?_mapValues {μ : Type} (f : ν → μ) (map : OrderedMap κ ν) (key : κ) :
    (map.mapValues f).get? key = (map.get? key).map f :=
  get?_mapEntries _ map key

theorem keys_insert (map : OrderedMap κ ν) (key : κ) (value : ν) :
    (map.insert key value).keys = if key ∈ map.keys then map.keys else map.keys ++ [key] :=
  map_fst_insertPair key value map.toList

theorem keys_insert_of_mem (map : OrderedMap κ ν) {key : κ} (value : ν) (member : key ∈ map.keys) :
    (map.insert key value).keys = map.keys := by
  rw [keys_insert, if_pos member]

theorem keys_insert_of_not_mem (map : OrderedMap κ ν) {key : κ} (value : ν)
    (missing : key ∉ map.keys) : (map.insert key value).keys = map.keys ++ [key] := by
  rw [keys_insert, if_neg missing]

theorem mem_keys_insert {map : OrderedMap κ ν} {key other : κ} {value : ν} :
    other ∈ (map.insert key value).keys ↔ other = key ∨ other ∈ map.keys := by
  by_cases member : key ∈ map.keys
  · rw [keys_insert_of_mem map value member]
    constructor
    · exact .inr
    · rintro (rfl | old)
      · exact member
      · exact old
  · simp [keys_insert_of_not_mem map value member, or_comm]

/-! ## Maps from lists -/

theorem insert_insert_self (map : OrderedMap κ ν) (key : κ) (before value : ν) :
    (map.insert key before).insert key value = map.insert key value := by
  apply ext_get?
  · by_cases member : key ∈ map.keys
    · simp [keys_insert_of_mem, member]
    · rw [keys_insert_of_mem _ value (mem_keys_insert.mpr (.inl rfl)),
        keys_insert_of_not_mem map before member, keys_insert_of_not_mem map value member]
  · intro other
    by_cases same : other = key <;> simp [get?_insert, same]

theorem insert_eq_self {map : OrderedMap κ ν} {key : κ} {value : ν}
    (found : map.get? key = some value) : map.insert key value = map := by
  apply ext_get?
  · exact keys_insert_of_mem map value (mem_keys_of_get? found)
  · intro other
    by_cases same : other = key <;> simp [get?_insert, same, found]

theorem mapValues_eq_self {map : OrderedMap κ ν} {f : ν → ν}
    (fixed : ∀ key value, map.get? key = some value → f value = value) : map.mapValues f = map := by
  apply ext_get? (keys_mapValues f map)
  intro key
  rw [get?_mapValues]
  cases found : map.get? key with
  | none => rfl
  | some value => exact congrArg some (fixed key value found)

theorem mapValues_mapValues {μ ρ : Type} (f : ν → μ) (g : μ → ρ) (map : OrderedMap κ ν) :
    (map.mapValues f).mapValues g = map.mapValues (g ∘ f) := by
  apply ext_get? (by simp)
  intro key
  cases map.get? key <;> simp_all

theorem insertPair_of_not_mem {key : κ} {pairs : List (κ × ν)} (missing : key ∉ pairs.map Prod.fst)
    (value : ν) : insertPair key value pairs = pairs ++ [(key, value)] := by
  induction pairs with
  | nil => rfl
  | cons pair rest ih => grind [insertPair]

/-- Pairs with new keys are listed after the others. -/
theorem toList_insertAll (map : OrderedMap κ ν) {pairs : List (κ × ν)}
    (fresh : (map.keys ++ pairs.map Prod.fst).Nodup) :
    (map.insertAll pairs).toList = map.toList ++ pairs := by
  induction pairs generalizing map with
  | nil => simp [insertAll]
  | cons pair rest ih =>
    obtain ⟨key, value⟩ := pair
    have missing : key ∉ map.keys := fun member =>
      (List.nodup_append.mp fresh).2.2 key member key (by simp) rfl
    have pairs_eq : (map.insert key value).toList = map.toList ++ [(key, value)] :=
      insertPair_of_not_mem missing value
    have later := ih (map.insert key value) (by
      rw [keys_insert_of_not_mem map value missing]
      simpa using fresh)
    rw [pairs_eq, List.append_assoc] at later
    exact later

/-- Pairs with different keys are listed as they are. -/
theorem toList_ofList {pairs : List (κ × ν)} (distinct : (pairs.map Prod.fst).Nodup) :
    (ofList pairs).toList = pairs :=
  toList_insertAll ∅ (by simpa using distinct)

/-- Setting other keys leaves a key alone. -/
theorem get?_insertAll_of_not_mem (map : OrderedMap κ ν) {pairs : List (κ × ν)} {key : κ}
    (missing : key ∉ pairs.map Prod.fst) : (map.insertAll pairs).get? key = map.get? key := by
  induction pairs generalizing map with
  | nil => rfl
  | cons pair rest ih =>
    obtain ⟨different, rest_missing⟩ : key ≠ pair.1 ∧ key ∉ rest.map Prod.fst := by
      simpa using missing
    exact (ih (map.insert pair.1 pair.2) rest_missing).trans
      (get?_insert_of_ne map pair.2 different)

/-- A key that is set once has its value afterwards. -/
theorem get?_insertAll_of_mem (map : OrderedMap κ ν) {pairs : List (κ × ν)} {key : κ} {value : ν}
    (member : (key, value) ∈ pairs) (once : ∀ other, (key, other) ∈ pairs → other = value) :
    (map.insertAll pairs).get? key = some value := by
  induction pairs generalizing map with
  | nil => simp at member
  | cons pair rest ih =>
    by_cases later : key ∈ rest.map Prod.fst
    · obtain ⟨⟨_, other⟩, other_member, rfl⟩ := List.mem_map.mp later
      obtain rfl := once other (List.mem_cons_of_mem pair other_member)
      exact ih (map.insert pair.1 pair.2) other_member
        fun other inner => once other (List.mem_cons_of_mem pair inner)
    · have here : pair = (key, value) := by
        rcases List.mem_cons.mp member with same | inner
        · exact same.symm
        · exact absurd (List.mem_map.mpr ⟨_, inner, rfl⟩) later
      subst here
      exact (get?_insertAll_of_not_mem _ later).trans (get?_insert_self map key value)

/-- Setting keys gives each the value that the pairs list for it, and leaves the others alone. -/
theorem get?_insertAll (map : OrderedMap κ ν) (pairs : List (κ × ν)) (key : κ) :
    (map.insertAll pairs).get? key = ((ofList pairs).get? key).or (map.get? key) := by
  induction pairs generalizing map with
  | nil => rfl
  | cons pair rest ih =>
    have listed : (ofList (pair :: rest)).get? key =
        ((ofList rest).get? key).or ((insert ∅ pair.1 pair.2).get? key) :=
      ih (insert ∅ pair.1 pair.2)
    have set : (map.insertAll (pair :: rest)).get? key =
        ((ofList rest).get? key).or ((map.insert pair.1 pair.2).get? key) :=
      ih (map.insert pair.1 pair.2)
    rw [listed, set, get?_insert, get?_insert]
    by_cases same : key = pair.1
    · simp [same]
    · simp [same]

/-- Keys that are set keep their places, and new ones follow in order. -/
theorem keys_insertAll (map : OrderedMap κ ν) (pairs : List (κ × ν)) :
    (map.insertAll pairs).keys =
      map.keys ++ (ofList pairs).keys.filter fun key => !map.contains key := by
  induction pairs generalizing map with
  | nil => exact (List.append_nil _).symm
  | cons pair rest ih =>
    have listed : (ofList (pair :: rest)).keys =
        [pair.1] ++ (ofList rest).keys.filter fun key => !(insert ∅ pair.1 pair.2).contains key :=
      ih (insert ∅ pair.1 pair.2)
    have set : (map.insertAll (pair :: rest)).keys =
        (map.insert pair.1 pair.2).keys ++
          (ofList rest).keys.filter fun key => !(map.insert pair.1 pair.2).contains key :=
      ih (map.insert pair.1 pair.2)
    rw [listed, set, List.filter_append, List.filter_filter]
    by_cases member : pair.1 ∈ map.keys
    · have present : map.contains pair.1 = true := contains_iff.mpr member
      rw [keys_insert_of_mem map pair.2 member, List.filter_cons_of_neg (by simp [present])]
      congr 1
      refine List.filter_congr fun key _ => ?_
      by_cases same : key = pair.1 <;> simp [contains, get?_insert, same]
    · have missing : map.contains pair.1 = false := by
        rw [← Bool.not_eq_true, contains_iff]
        exact member
      rw [keys_insert_of_not_mem map pair.2 member, List.filter_cons_of_pos (by simp [missing]),
        List.append_assoc]
      congr 2
      refine List.filter_congr fun key _ => ?_
      by_cases same : key = pair.1 <;> simp [contains, get?_insert, same]

/-- A map is the one that lists its pairs. -/
@[simp]
theorem ofList_toList (map : OrderedMap κ ν) : ofList map.toList = map := by
  obtain ⟨pairs, distinct⟩ := map
  rw [mk.injEq, toList_ofList distinct]

/-- A map is listed by its keys, each with its value. -/
theorem toList_eq_map_keys {map : OrderedMap κ ν} (value : κ → ν)
    (values : ∀ key found, map.get? key = some found → value key = found) :
    map.toList = map.keys.map fun key => (key, value key) := by
  rw [keys, List.map_map]
  refine (List.map_id _).symm.trans (List.map_congr_left ?_)
  rintro ⟨key, found⟩ member
  simp [values key found (get?_eq_some_iff.mpr member)]

end OrderedMap
end PackageRepos
