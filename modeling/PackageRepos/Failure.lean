import PackageRepos.ArgumentFault
import PackageRepos.Files.Opening
import PackageRepos.Logging.Fault
import PackageRepos.RepoError
import PackageRepos.Text.Encoding

/-!
# Failures

Everything that an operation can fail with: the errors of this library, and faults of arguments,
files and texts that it lets through.
-/

namespace PackageRepos

/-- The ways in which an operation fails. -/
inductive Failure where
  | error (error : RepoError)
  | argument (fault : ArgumentFault)
  | lookup (fault : KeyFile.LookupFault)
  | file (fault : Files.Fault)
  | undecodable (fault : Utf8.Fault)
  | uncodable (fault : Utf8.Uncodable)
  | encoding (fault : Encoding.Fault)
  | openMode (fault : Files.OpenModeFault)
  /-- Logging settings are unusable. -/
  | logging (fault : Logging.Fault)
  /-- A handler of no particular kind cannot hand events on. -/
  | abstractHandler
  /-- An integer numeral has more digits than can be read. -/
  | tooManyDigits (count : Nat)
  /-- A path without a name has no sibling. -/
  | namelessPath (path : Text)
  /-- The home directory that a path starts from is not known. -/
  | homeless
deriving Repr

namespace Failure

/-- The wording of a failure. -/
def message : Failure → Text
  | error cause => cause.message
  | argument fault => fault.message
  | lookup fault => fault.message
  | file fault => fault.message
  | undecodable fault => fault.message
  | uncodable fault => fault.message
  | encoding fault => fault.message
  | openMode fault => fault.message
  | logging fault => fault.message
  | abstractHandler => Text.of "emit must be implemented by Handler subclasses"
  | tooManyDigits count => Quantity.digitLimitMessage count
  | namelessPath path => Text.of "PosixPath(" ++ path.quoted ++ Text.of ") has an empty name"
  | homeless => Text.of "Could not determine home directory."

/-- A failure to read a text file. -/
def ofReadFault : Files.ReadFault → Failure
  | .file fault => file fault
  | .undecodable fault => undecodable fault

/-- The failure of a file operation, which is an error of this library unless the path is malformed:
that is a mistake of the caller. -/
def ofFileFault (fault : Files.Fault) (reported : RepoError) : Failure :=
  if fault.isMalformed then file fault else error reported

/-- The failure to read a repository file. -/
def unreadable (path : Text) (fault : Files.ReadFault) : Failure :=
  match fault with
  | .file fault => ofFileFault fault (.unreadable path (.file fault))
  | .undecodable _ => error (.unreadable path fault)

/-- The failure to write a repository file. -/
def unwritable (path : Text) (fault : Files.WriteFault) : Failure :=
  match fault with
  | .file fault => ofFileFault fault (.unwritable path fault)
  | .uncodable fault => uncodable fault

/-- The failure to open a directory. -/
def unopenable (path : Text) (fault : Files.Fault) : Failure :=
  ofFileFault fault (.unopenable path fault)

/-- The failure of a quantity that cannot be read. -/
def ofQuantity (quantity : Quantity) (text : Text) (fault : Quantity.Fault) : Failure :=
  match fault with
  | .tooManyDigits count => tooManyDigits count
  | fault => error (.ofQuantity quantity text fault)

/-- The failure comes of values that are wrong in themselves, rather than of the state of the world
around. -/
def isMistake : Failure → Bool
  | argument _ | undecodable _ | uncodable _ | openMode _ | tooManyDigits _ | namelessPath _ => true
  | file fault => fault.isMalformed
  | logging fault => fault.isMistake
  | error cause => cause.category == .value
  | lookup _ | encoding _ | abstractHandler | homeless => false

end Failure
end PackageRepos
