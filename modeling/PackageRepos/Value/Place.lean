import PackageRepos.Value

/-!
# Places in values

A part of a value is found by the keys that lead to it, names in mappings and numbers in lists, and
may be replaced there.
-/

namespace PackageRepos

/-- Under what a part of a value stands: its name in a mapping, or its number in a list. -/
inductive Key where
  | name (name : Text)
  | number (index : Nat)
deriving DecidableEq, Repr

/-- The keys that lead to a part of a value, the outermost first. -/
abbrev Place := List Key

namespace Value

/-- The part of a value that stands under a key. -/
def part? : Key → Value → Option Value
  | .name name, mapping entries => entries.lookup name
  | .number index, list items => items[index]?
  | _, _ => none

/-- The part of a value at a place. -/
def at? : Place → Value → Option Value
  | [], value => some value
  | key :: rest, value => (value.part? key).bind (at? rest)

/-- Entries with the value of a key changed. -/
def changeEntry (name : Text) (change : Value → Value) :
    List (Text × Value) → List (Text × Value)
  | [] => []
  | entry :: rest =>
    if name = entry.1 then (name, change entry.2) :: rest else entry :: changeEntry name change rest

/-- The value with another one at a place. -/
def put (new : Value) : Place → Value → Value
  | [], _ => new
  | .name name :: rest, mapping entries => mapping (changeEntry name (put new rest) entries)
  | .number index :: rest, list items => list (items.modify index (put new rest))
  | _, value => value

end Value
end PackageRepos
