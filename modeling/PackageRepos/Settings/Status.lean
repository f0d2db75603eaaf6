import PackageRepos.Text.Basic

/-!
# What became of a section's settings

How far the settings of a section could be put together.
-/

namespace PackageRepos
namespace Settings

/-- What became of a section's settings. -/
inductive Status where
  | missing
  | invalid
  | loaded
  | overridden
deriving DecidableEq, Repr

/-- The wording of a status. -/
def Status.word : Status → String
  | missing => "missing"
  | invalid => "invalid"
  | loaded => "loaded"
  | overridden => "loaded+overrides"

end Settings
end PackageRepos
