import PackageRepos.Binary64.Shortest
import PackageRepos.Numeral
import PackageRepos.Text.Quoted

/-!
# Values

A value of any kind: what a caller hands to an option or a key file, what an option yields, and
what a settings document is made of. The display of a value is its form in messages.
-/

namespace PackageRepos

/-- Address family used to resolve host names. -/
inductive AddressFamily where
  | v4
  | v6
  | whatever
deriving DecidableEq, Repr

namespace AddressFamily

/-- All families. -/
def all : List AddressFamily := [v4, v6, whatever]

/-- The word for the family in a repository file. -/
def word : AddressFamily → String
  | v4 => "ipv4"
  | v6 => "ipv6"
  | whatever => "whatever"

/-- The family's name in messages. -/
def memberName : AddressFamily → String
  | v4 => "V4"
  | v6 => "V6"
  | whatever => "WHATEVER"

/-- The family with the given word. -/
def ofWord? (word : Text) : Option AddressFamily :=
  all.find? fun family => Text.of family.word == word

end AddressFamily

/-- A value of any kind. -/
inductive Value where
  | absent
  | bool (value : Bool)
  | int (value : Int)
  | float (value : Binary64)
  | text (value : Text)
  | bytes (value : List UInt8)
  | list (items : List Value)
  | tuple (items : List Value)
  | mapping (entries : List (Text × Value))
  | address (family : AddressFamily)
  /-- Something that is no data, of a kind. -/
  | thing (kind : String)
deriving Repr

namespace Value

instance : Inhabited Value := ⟨absent⟩

/-- The name of a value's kind in messages. -/
def kindName : Value → String
  | absent => "NoneType"
  | bool _ => "bool"
  | int _ => "int"
  | float _ => "float"
  | text _ => "str"
  | bytes _ => "bytes"
  | list _ => "list"
  | tuple _ => "tuple"
  | mapping _ => "dict"
  | address _ => "IpResolve"
  | thing kind => kind

/-- The value counts as true: it is neither absent, false, zero nor empty. -/
def isTrue : Value → Bool
  | absent => false
  | bool value => value
  | int value => value != 0
  | float value => !value.isZero
  | text value => !value.isEmpty
  | bytes value => !value.isEmpty
  | list items => !items.isEmpty
  | tuple items => !items.isEmpty
  | mapping entries => !entries.isEmpty
  | address _ | thing _ => true

/-- A decimal integer. -/
def decimal (value : Int) : Text :=
  if value < 0 then '-' :: Nat.toDigits 10 value.natAbs else Nat.toDigits 10 value.natAbs

/-- One byte between the given quotes. -/
def displayByte (quote : Char) (byte : UInt8) : Text :=
  let char := Char.ofNat byte.toNat
  if char == quote || char == '\\' then ['\\', char]
  else if char == '\n' then ['\\', 'n']
  else if char == '\r' then ['\\', 'r']
  else if char == '\t' then ['\\', 't']
  else if 0x20 ≤ byte.toNat ∧ byte.toNat < 0x7f then [char]
  else '\\' :: 'x' :: Text.hexadecimal 2 byte.toNat

/-- Bytes between quotes. -/
def displayBytes (value : List UInt8) : Text :=
  let quote := Text.delimiter (value.map fun byte => Char.ofNat byte.toNat)
  'b' :: quote :: value.flatMap (displayByte quote) ++ [quote]

mutual

/-- The value as messages show it. -/
def display : Value → Text
  | absent => Text.of "None"
  | bool value => if value then Text.of "True" else Text.of "False"
  | int value => decimal value
  | float value => value.display
  | text value => value.quoted
  | bytes value => displayBytes value
  | list items => '[' :: Text.join (Text.of ", ") (displayItems items) ++ [']']
  | tuple [item] => '(' :: item.display ++ [',', ')']
  | tuple items => '(' :: Text.join (Text.of ", ") (displayItems items) ++ [')']
  | mapping entries => '\x7b' :: Text.join (Text.of ", ") (displayEntries entries) ++ ['\x7d']
  | address family => Text.of s!"<IpResolve.{family.memberName}: '{family.word}'>"
  | thing kind => Text.of s!"<{kind}>"

/-- The items of a sequence as messages show them. -/
def displayItems : List Value → List Text
  | [] => []
  | item :: rest => item.display :: displayItems rest

/-- The entries of a mapping as messages show them. -/
def displayEntries : List (Text × Value) → List Text
  | [] => []
  | (key, value) :: rest => (key.quoted ++ ':' :: ' ' :: value.display) :: displayEntries rest

end

mutual

/-- The value can be shown: every integer in it can be written down. -/
def isShowable : Value → Bool
  | int value => Numeral.canWrite value
  | list items | tuple items => areShowable items
  | mapping entries => entriesShowable entries
  | _ => true

/-- All items can be shown. -/
def areShowable : List Value → Bool
  | [] => true
  | item :: rest => item.isShowable && areShowable rest

/-- The values of all entries can be shown. -/
def entriesShowable : List (Text × Value) → Bool
  | [] => true
  | (_, value) :: rest => value.isShowable && entriesShowable rest

end

/-- The value as plain text: a text is itself, anything else is its display. -/
def plain : Value → Text
  | text value => value
  | address family => Text.of s!"IpResolve.{family.memberName}"
  | value => value.display

/-- The kind of the part of a value that keeps it from being a key of a mapping. -/
def unkeyable? : Value → Option String
  | list _ => some "list"
  | mapping _ => some "dict"
  | tuple items => unkeyableItem? items
  | _ => none
where
  /-- The first item that keeps a tuple from being a key. -/
  unkeyableItem? : List Value → Option String
    | [] => none
    | item :: rest => item.unkeyable?.or (unkeyableItem? rest)

end Value
end PackageRepos
