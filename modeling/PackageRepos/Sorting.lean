/-!
# Sorting by a comparison that may fail

Which items are compared first shows when the comparison fails, so the order of the comparisons is
part of what sorting means here. The items at the start that go in one direction are taken as they
are; each of the others is put in its place by halving, after those that it is not below.
-/

namespace PackageRepos
namespace Sorting

variable {α ε : Type}

/-- The items that go on in a direction from the last one, and the rest. -/
def run (less : α → α → Except ε Bool) (goesDown : Bool) (last : α) :
    List α → Except ε (List α × List α)
  | [] => .ok ([], [])
  | item :: rest =>
    match less item last with
    | .error fault => .error fault
    | .ok isBelow =>
      if isBelow = goesDown then
        (run less goesDown item rest).map fun (taken, left) => (item :: taken, left)
      else .ok ([], item :: rest)

/-- The place of an item among sorted ones, between two bounds. Every comparison takes a unit of
fuel. -/
def slot (less : α → α → Except ε Bool) (pivot : α) (sorted : List α) :
    Nat → Nat → Nat → Except ε Nat
  | 0, low, _ => .ok low
  | fuel + 1, low, high =>
    let middle := low + (high - low) / 2
    match if high ≤ low then none else sorted[middle]? with
    | none => .ok low
    | some item =>
      match less pivot item with
      | .error fault => .error fault
      | .ok true => slot less pivot sorted fuel low middle
      | .ok false => slot less pivot sorted fuel (middle + 1) high

/-- Puts items in their places among sorted ones. -/
def insertAll (less : α → α → Except ε Bool) (sorted : List α) : List α → Except ε (List α)
  | [] => .ok sorted
  | item :: rest =>
    match slot less item sorted (sorted.length + 1) 0 sorted.length with
    | .error fault => .error fault
    | .ok place => insertAll less (sorted.take place ++ item :: sorted.drop place) rest

/-- The items in ascending order. Equal items stay in the order in which they are given. -/
def sort (less : α → α → Except ε Bool) : List α → Except ε (List α)
  | [] => .ok []
  | [item] => .ok [item]
  | first :: second :: rest =>
    match less second first with
    | .error fault => .error fault
    | .ok goesDown =>
      match run less goesDown second rest with
      | .error fault => .error fault
      | .ok (taken, left) =>
        let start := first :: second :: taken
        insertAll less (if goesDown then start.reverse else start) left

end Sorting
end PackageRepos
