import PackageRepos.Files.TextFile
import PackageRepos.KeyFile.Reader
import PackageRepos.Quantity

/-!
# Errors

An error has a category, which callers tell apart, a problem, which says what is wrong, and, where
they are known, the path of the file, the key of the option and the cause. The wording of every
problem stands in one place.
-/

namespace PackageRepos

/-- The categories of error. -/
inductive ErrorCategory where
  /-- Any error. -/
  | general
  /-- A repository file cannot be read or written. -/
  | file
  /-- The content of a key file is malformed, or a look-up fails in it. -/
  | keyFile
  /-- A call has a missing or ill-typed argument. -/
  | argument
  /-- A value that is present is not valid for its kind. -/
  | value
  /-- A read-only option is written. -/
  | readOnly
  /-- An option without a default is not set. -/
  | notSet
deriving DecidableEq, Repr

/-- What is wrong. -/
inductive Problem where
  | quantity (quantity : Quantity) (text : Text) (fault : Quantity.Fault)
  | notAnInteger (key raw : Text)
  | beyondInt32 (key raw : Text)
  | unknownFamily (raw : Text)
  | wrongKind (key : Text) (expected found : String)
  | outOfRange (key : Text) (value minimum maximum : Int)
  | lineBreak (key : Text)
  | edgeBlank (key : Text)
  | badItem (key item : Text)
  | readOnly
  | unknownKey (key : Text)
  | unregistered (shown : Text)
  | detached (id : Text)
  | notLoaded (path : Text)
  | notSet (key : Text)
  | lookup (key : Text) (fault : KeyFile.LookupFault)
  | malformed (source : Text) (fault : KeyFile.SyntaxFault)
  | unreadable (path : Text) (fault : Files.ReadFault)
  | unwritable (path : Text) (fault : Files.Fault)
  | unopenable (path : Text) (fault : Files.Fault)
  /-- A problem stated by the caller. -/
  | stated (text : Text)
deriving Repr

namespace Problem

/-- The wording of a problem. -/
def message : Problem → Text
  | quantity measure text fault => fault.message measure text
  | notAnInteger key raw =>
    Text.of "Value '" ++ raw ++ Text.of "' of option '" ++ key ++ Text.of "' is not an integer"
  | beyondInt32 key raw =>
    Text.of "Value '" ++ raw ++ Text.of "' of option '" ++ key ++ Text.of "' is out of 32-bit range"
  | unknownFamily raw => Text.of "Unknown ip_resolve value '" ++ raw ++ ['\'']
  | wrongKind key expected found =>
    Text.of "Option '" ++ key ++ Text.of s!"' expects {expected}, got {found}"
  | outOfRange key value minimum maximum =>
    Text.of "Option '" ++ key ++ Text.of "' value " ++ Value.decimal value ++
      Text.of " is out of range [" ++ Value.decimal minimum ++ Text.of ", " ++
      Value.decimal maximum ++ [']']
  | lineBreak key => Text.of "Option '" ++ key ++ Text.of "' cannot contain a line break"
  | edgeBlank key =>
    Text.of "Option '" ++ key ++ Text.of "' cannot contain tabs or leading/trailing whitespace"
  | badItem key item =>
    Text.of "Option '" ++ key ++ Text.of "' item " ++ item.quoted ++
      Text.of " is empty or contains a list separator"
  | readOnly => Text.of "ID is read only option"
  | unknownKey key => Text.of "Unknown option '" ++ key ++ ['\'']
  | unregistered shown => Text.of "Unknown option " ++ shown
  | detached id => Text.of "No keyfile available for repo '" ++ id ++ ['\'']
  | notLoaded path =>
    Text.of "<RepoFile " ++ path.quoted ++ Text.of "> is not loaded in this store"
  | notSet key => Text.of "Value of option '" ++ key ++ Text.of "' is not set"
  | lookup key fault =>
    Text.of "Cannot get value of option '" ++ key ++ Text.of "': " ++ fault.message
  | malformed source fault =>
    Text.of "Cannot parse key file " ++ source ++ Text.of ": " ++ fault.message source
  | unreadable path fault =>
    Text.of "Cannot load content of " ++ path ++ Text.of ": " ++ fault.message
  | unwritable path fault => Text.of "Cannot write " ++ path ++ Text.of ": " ++ fault.message
  | unopenable path fault => Text.of "Cannot open dir " ++ path ++ Text.of ": " ++ fault.message
  | stated text => text

/-- The problem can be put into words, which may hold a number. -/
def isShowable : Problem → Bool
  | outOfRange _ value _ _ => Numeral.canWrite value
  | _ => true

end Problem

/-- What brought an error about. -/
inductive Cause where
  /-- Another error. -/
  | error (category : ErrorCategory)
  /-- A word that names no member of a closed set. -/
  | noSuchMember
  | file (fault : Files.Fault)
  | undecodable (fault : Utf8.Fault)
  | syntaxFault (fault : KeyFile.SyntaxFault)
  | lookup (fault : KeyFile.LookupFault)
deriving Repr

/-- A fault in reading a text file as a cause. -/
def Cause.ofReadFault : Files.ReadFault → Cause
  | .file fault => file fault
  | .undecodable fault => undecodable fault

/-- An error that callers can tell apart by its category. -/
structure RepoError where
  category : ErrorCategory
  problem : Problem
  /-- The path of the file. -/
  path : Option Text := none
  /-- The key of the option. -/
  key : Option Text := none
  cause : Option Cause := none
deriving Repr

namespace RepoError

/-- The wording of an error, with the path in front when it is known. -/
def message (error : RepoError) : Text :=
  match error.path with
  | some (first :: rest) => '[' :: first :: rest ++ ']' :: ' ' :: error.problem.message
  | _ => error.problem.message

/-- A malformed key file. -/
def malformed (source : Text) (fault : KeyFile.SyntaxFault) : RepoError where
  category := .keyFile
  problem := .malformed source fault
  path := some source
  cause := some (.syntaxFault fault)

/-- A repository file that cannot be read. -/
def unreadable (path : Text) (fault : Files.ReadFault) : RepoError where
  category := .file
  problem := .unreadable path fault
  path := some path
  cause := some (.ofReadFault fault)

/-- A repository file that cannot be written. -/
def unwritable (path : Text) (fault : Files.Fault) : RepoError where
  category := .file
  problem := .unwritable path fault
  path := some path
  cause := some (.file fault)

/-- A directory that cannot be opened. -/
def unopenable (path : Text) (fault : Files.Fault) : RepoError where
  category := .keyFile
  problem := .unopenable path fault
  path := some path
  cause := some (.file fault)

/-- An entry whose file was removed from its catalog. -/
def detached (id : Text) : RepoError where
  category := .argument
  problem := .detached id
  key := some (Text.of "id")

/-- A file that is not part of the catalog. -/
def notLoaded (path : Text) : RepoError where
  category := .argument
  problem := .notLoaded path

/-- A write to the read-only option. -/
def readOnly : RepoError where
  category := .readOnly
  problem := .readOnly
  key := some (Text.of "id")

/-- An argument that an option does not accept. -/
def rejected (key : Text) (problem : Problem) : RepoError where
  category := .argument
  problem := problem
  key := some key

/-- A stored text that an option does not accept. -/
def invalid (key : Text) (problem : Problem) (cause : Option Cause := none) : RepoError where
  category := .value
  problem := problem
  key := some key
  cause := cause

/-- A quantity that cannot be read, by itself. -/
def ofQuantity (quantity : Quantity) (text : Text) (fault : Quantity.Fault) : RepoError where
  category := if fault = .missing then .argument else .value
  problem := .quantity quantity text fault

end RepoError
end PackageRepos
