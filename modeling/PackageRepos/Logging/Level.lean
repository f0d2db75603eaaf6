import PackageRepos.Value

/-!
# Levels

A level is a number, which settings may also give by its name or as a truth value; a truth value is
worth one or zero, and is kept as it was given.
-/

namespace PackageRepos
namespace Logging

/-- The level of a logger or a handler. -/
inductive Level where
  | number (value : Int)
  | flag (value : Bool)
deriving DecidableEq, Repr

namespace Level

/-- The number that a level is worth. -/
def rank : Level → Int
  | number value => value
  | flag value => if value then 1 else 0

/-- The level as a value. -/
def toValue : Level → Value
  | number value => .int value
  | flag value => .bool value

/-- The level that leaves the decision to others. -/
def unset : Level := number 0

/-- The level at which events are debugged. -/
def debug : Level := number 10

/-- The level of events that inform. -/
def info : Level := number 20

/-- The levels that have names. -/
def names : List (String × Int) :=
  [("CRITICAL", 50), ("FATAL", 50), ("ERROR", 40), ("WARN", 30), ("WARNING", 30), ("INFO", 20),
    ("DEBUG", 10), ("NOTSET", 0)]

/-- The level that a setting denotes. -/
def ofValue? : Value → Option Level
  | .int value => some (number value)
  | .bool value => some (flag value)
  | .text name => (names.find? fun known => Text.of known.1 == name).map fun known => number known.2
  | _ => none

end Level
end Logging
end PackageRepos
