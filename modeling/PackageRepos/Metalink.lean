import PackageRepos.Text.Basic

/-!
# Metalinks

What a repository's metalink says about a target file: its name, size and checksums, and the
sites that have it. Sites are used in the order of their preference; equal preferences keep the
order of the document.
-/

namespace PackageRepos

/-- A checksum of the target file. -/
structure MetalinkHash where
  algorithm : Text
  value : Text
deriving DecidableEq, Repr

/-- A site that has the target file. -/
structure MetalinkUrl where
  url : Text
  protocol : Option Text := none
  type : Option Text := none
  /-- The country of the site. -/
  location : Option Text := none
  /-- How much the site is preferred; higher is better. -/
  preference : Int := 0
deriving DecidableEq, Repr

/-- The description of a target file. -/
structure Metalink where
  filename : Option Text := none
  timestamp : Int := 0
  size : Int := 0
  hashes : List MetalinkHash := []
  urls : List MetalinkUrl := []
deriving DecidableEq, Repr

namespace Metalink

/-- The site need not come after the other one. -/
def precedes (left right : MetalinkUrl) : Bool := right.preference ≤ left.preference

/-- The sites, best first; equal preferences keep their order. -/
def urlsByPreference (metalink : Metalink) : List MetalinkUrl := metalink.urls.mergeSort precedes

/-- The first checksum of an algorithm. -/
def hash? (metalink : Metalink) (algorithm : Text) : Option Text :=
  (metalink.hashes.find? fun hash => hash.algorithm == algorithm).map fun hash => hash.value

/-- Adds a site after the others. -/
def addUrl (metalink : Metalink) (url : MetalinkUrl) : Metalink :=
  { metalink with urls := metalink.urls ++ [url] }

/-- Adds a checksum after the others. -/
def addHash (metalink : Metalink) (hash : MetalinkHash) : Metalink :=
  { metalink with hashes := metalink.hashes ++ [hash] }

end Metalink
end PackageRepos
