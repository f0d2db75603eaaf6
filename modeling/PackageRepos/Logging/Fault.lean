import PackageRepos.Logging.Reference

/-!
# Unusable logging settings

What is wrong with logging settings is told by the name of the part that cannot be configured.
-/

namespace PackageRepos
namespace Logging

/-- The kinds of parts that logging settings name. -/
inductive PartKind where
  | formatter
  | filter
  | handler
  | logger
deriving DecidableEq, Repr

/-- The word for a kind of parts. -/
def PartKind.word : PartKind → String
  | formatter => "formatter"
  | filter => "filter"
  | handler => "handler"
  | logger => "logger"

/-- Why logging settings are unusable. -/
inductive Fault where
  | unsupportedVersion (version : Value)
  | unusablePart (kind : PartKind) (name : Value)
  | unusableRoot
  /-- A handler that is to be changed is not there. -/
  | noHandler (name : Value)
  | reference (fault : ReferenceFault)
deriving Repr

namespace Fault

/-- The wording of a fault. -/
def message : Fault → Text
  | unsupportedVersion version => Text.of "Unsupported version: " ++ version.plain
  | unusablePart kind name => Text.of s!"Unable to configure {kind.word} " ++ name.display
  | unusableRoot => Text.of "Unable to configure root logger"
  | noHandler name => Text.of "No handler found with name " ++ name.display
  | reference fault => fault.message

/-- The settings themselves are wrong, rather than what they refer to. -/
def isMistake : Fault → Bool
  | reference fault => fault.isMistake
  | _ => true

end Fault
end Logging
end PackageRepos
