import PackageRepos.ArgumentFault
import PackageRepos.Sorting

/-!
# Comparing values

Numbers of all kinds compare by what they are worth, texts by their code points, and sequences by
the first items that differ. Values of other kinds, and of kinds that do not go together, have no
order, though they can be equal.
-/

namespace PackageRepos

/-- What a number is worth. -/
inductive Worth where
  /-- A ratio with a positive denominator. -/
  | ratio (numerator : Int) (denominator : Nat)
  | infinite (negative : Bool)
  | undefined
deriving DecidableEq, Repr

namespace Worth

/-- The worth of an integer. -/
def ofInt (value : Int) : Worth := ratio value 1

/-- The worth of a floating-point number. -/
def ofBinary64 : Binary64 → Worth
  | .finite negative mantissa exponent =>
    let magnitude : Int := mantissa * Binary64.powerTop 2 exponent
    ratio (if negative then -magnitude else magnitude) (Binary64.powerBottom 2 exponent)
  | .infinite negative => infinite negative
  | .undefined => undefined

/-- The first number is less than the second. -/
def less : Worth → Worth → Bool
  | ratio left leftBottom, ratio right rightBottom => left * rightBottom < right * leftBottom
  | ratio .., infinite negative => !negative
  | infinite negative, ratio .. => negative
  | infinite left, infinite right => left && !right
  | undefined, _ | _, undefined => false

/-- The numbers are equal; one that is undefined equals none. -/
def same : Worth → Worth → Bool
  | ratio left leftBottom, ratio right rightBottom => left * rightBottom == right * leftBottom
  | infinite left, infinite right => left == right
  | _, _ => false

/-- The first number is at least the second. -/
def reaches (left right : Worth) : Bool := right.less left || left.same right

end Worth

namespace Value

/-- What a value is worth, if it is a number. A truth value is worth one or zero. -/
def worth? : Value → Option Worth
  | bool value => some (.ofInt (if value then 1 else 0))
  | int value => some (.ofInt value)
  | float value => some (.ofBinary64 value)
  | _ => none

mutual

/-- The values are equal. Mappings are equal when they have the same entries in any order. -/
def same : Value → Value → Bool
  | absent, absent => true
  | text left, text right => left == right
  | bytes left, bytes right => left == right
  | address left, address right => left == right
  | list left, list right | tuple left, tuple right => sameItems left right
  | mapping left, mapping right => left.length == right.length && sameEntries left right
  | left, right =>
    match left.worth?, right.worth? with
    | some leftWorth, some rightWorth => leftWorth.same rightWorth
    | _, _ => false

/-- The items are equal one by one. -/
def sameItems : List Value → List Value → Bool
  | [], [] => true
  | left :: leftRest, right :: rightRest => left.same right && sameItems leftRest rightRest
  | _, _ => false

/-- Every entry is among the others. -/
def sameEntries : List (Text × Value) → List (Text × Value) → Bool
  | [], _ => true
  | (key, value) :: rest, others =>
    (others.lookup key).any (fun other => value.same other) && sameEntries rest others

end

/-- The values have no order. -/
def unordered (left right : Value) : Except ArgumentFault Bool :=
  .error (.notComparable "<" left.kindName right.kindName)

mutual

/-- The first value is less than the second. -/
def less : Value → Value → Except ArgumentFault Bool
  | text left, text right => .ok (Text.le left right && left != right)
  | list left, list right | tuple left, tuple right => lessItems left right
  | left, right =>
    match left.worth?, right.worth? with
    | some leftWorth, some rightWorth => .ok (leftWorth.less rightWorth)
    | _, _ => unordered left right

/-- The first items that differ decide, or else the lengths. -/
def lessItems : List Value → List Value → Except ArgumentFault Bool
  | [], right => .ok (!right.isEmpty)
  | _ :: _, [] => .ok false
  | left :: leftRest, right :: rightRest =>
    if left.same right then lessItems leftRest rightRest else left.less right

end

/-- The values in ascending order, each with what belongs to it. -/
def ascending {α : Type} (pairs : List (Value × α)) : Except ArgumentFault (List (Value × α)) :=
  Sorting.sort (fun left right => left.1.less right.1) pairs

end Value
end PackageRepos
