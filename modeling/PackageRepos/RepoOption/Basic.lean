import PackageRepos.ArgumentFault

/-!
# Repository options

The keys that a section of a repository file may set form a closed set. Every option has a kind,
which decides the values it takes, and some have a default. Options that are put together by a
caller look like registered ones but are not.
-/

namespace PackageRepos

/-- The kinds of value that an option has. -/
inductive OptionKind where
  /-- The name of the section itself. -/
  | id
  | text
  | list
  | bool
  | int32
  /-- Seconds, of 64 bits with a sign. -/
  | interval
  /-- Bytes, of 64 bits without a sign. -/
  | bandwidth
  | ipResolve
deriving DecidableEq, Repr

namespace OptionKind

/-- The word for the kind. -/
def word : OptionKind → String
  | id => "id"
  | text => "text"
  | list => "list"
  | bool => "bool"
  | int32 => "int32"
  | interval => "interval"
  | bandwidth => "bandwidth"
  | ipResolve => "ip_resolve"

/-- All kinds. -/
def all : List OptionKind := [id, text, list, bool, int32, interval, bandwidth, ipResolve]

/-- The kind with the given word. -/
def ofWord? (word : Text) : Option OptionKind := all.find? fun kind => Text.of kind.word == word

/-- What options of the kind are called in messages. -/
def optionName : OptionKind → String
  | id => "IdOption"
  | text => "TextOption"
  | list => "ListOption"
  | bool => "BoolOption"
  | int32 => "Int32Option"
  | interval => "IntervalOption"
  | bandwidth => "BandwidthOption"
  | ipResolve => "IpResolveOption"

/-- Options of the kind can be read but not written. -/
def isReadOnly : OptionKind → Bool
  | id => true
  | _ => false

end OptionKind

/-- What an option is: its key, its kind and its default. -/
structure OptionSpec where
  key : Text
  kind : OptionKind
  /-- The value of an option that is not set; absent when there is none. -/
  default : Value := .absent
deriving Repr

namespace OptionSpec

/-- The option has a default. -/
def hasDefault (spec : OptionSpec) : Bool :=
  match spec.default with
  | .absent => false
  | _ => true

/-- The option as messages show it. -/
def display (spec : OptionSpec) : Text :=
  Text.of s!"<{spec.kind.optionName} " ++ spec.key.quoted ++ ['>']

/-- The values that a client assumes for options without a default. -/
def assumed? (key : Text) : Option Value :=
  [("bandwidth", Value.int 0), ("ip_resolve", .address .whatever),
    ("metadata_expire", .int (60 * 60 * 48)), ("cost", .int 1000), ("priority", .int 99)].findSome?
    fun (name, value) => if Text.of name = key then some value else none

/-- The value of an option that is not set: its default, or else what a client assumes. -/
def fallback (spec : OptionSpec) : Value :=
  if spec.hasDefault then spec.default
  else
    match assumed? spec.key, spec.kind with
    | some value, _ => value
    | none, .list => .list []
    | none, .bool => .bool false
    | none, _ => .absent

end OptionSpec

/-- The registered options. -/
inductive RepoOption where
  | id
  | name
  | enabled
  | baseurl
  | mirrorlist
  | metalink
  | mediaid
  | gpgkey
  | gpgcakey
  | excludes
  | includes
  | fastestmirror
  | proxy
  | proxyUsername
  | proxyPassword
  | username
  | password
  | gpgcheck
  | repoGpgcheck
  | enablegroups
  | bandwidth
  | throttle
  | ipResolve
  | metadataExpire
  | cost
  | priority
  | sslcacert
  | sslverify
  | sslclientcert
  | sslclientkey
  | deltarepobaseurl
deriving DecidableEq, Repr

namespace RepoOption

/-- All options in their canonical order. -/
def all : List RepoOption :=
  [id, name, enabled, baseurl, mirrorlist, metalink, mediaid, gpgkey, gpgcakey, excludes, includes,
    fastestmirror, proxy, proxyUsername, proxyPassword, username, password, gpgcheck, repoGpgcheck,
    enablegroups, bandwidth, throttle, ipResolve, metadataExpire, cost, priority, sslcacert,
    sslverify, sslclientcert, sslclientkey, deltarepobaseurl]

theorem mem_all (option : RepoOption) : option ∈ all := by
  cases option <;> decide

/-- The key of an option in a repository file. -/
def key : RepoOption → String
  | id => "id"
  | name => "name"
  | enabled => "enabled"
  | baseurl => "baseurl"
  | mirrorlist => "mirrorlist"
  | metalink => "metalink"
  | mediaid => "mediaid"
  | gpgkey => "gpgkey"
  | gpgcakey => "gpgcakey"
  | excludes => "exclude"
  | includes => "include"
  | fastestmirror => "fastestmirror"
  | proxy => "proxy"
  | proxyUsername => "proxy_username"
  | proxyPassword => "proxy_password"
  | username => "username"
  | password => "password"
  | gpgcheck => "gpgcheck"
  | repoGpgcheck => "repo_gpgcheck"
  | enablegroups => "enablegroups"
  | bandwidth => "bandwidth"
  | throttle => "throttle"
  | ipResolve => "ip_resolve"
  | metadataExpire => "metadata_expire"
  | cost => "cost"
  | priority => "priority"
  | sslcacert => "sslcacert"
  | sslverify => "sslverify"
  | sslclientcert => "sslclientcert"
  | sslclientkey => "sslclientkey"
  | deltarepobaseurl => "deltarepobaseurl"

/-- The kind of an option. -/
def kind : RepoOption → OptionKind
  | id => .id
  | baseurl | gpgkey | gpgcakey | excludes | includes | deltarepobaseurl => .list
  | enabled | fastestmirror | gpgcheck | repoGpgcheck | enablegroups | sslverify => .bool
  | cost | priority => .int32
  | metadataExpire => .interval
  | bandwidth => .bandwidth
  | ipResolve => .ipResolve
  | name | mirrorlist | metalink | mediaid | proxy | proxyUsername | proxyPassword | username
  | password | throttle | sslcacert | sslclientcert | sslclientkey => .text

/-- The default of an option. -/
def default : RepoOption → Value
  | enabled | enablegroups | sslverify => .bool true
  | _ => .absent

/-- What a registered option is. -/
def spec (option : RepoOption) : OptionSpec where
  key := Text.of option.key
  kind := option.kind
  default := option.default

/-- The option with the given key. -/
def ofKey? (key : Text) : Option RepoOption := all.find? fun option => Text.of option.key == key

@[simp]
theorem spec_key (option : RepoOption) : option.spec.key = Text.of option.key := rfl

@[simp]
theorem spec_kind (option : RepoOption) : option.spec.kind = option.kind := rfl

theorem ofKey?_key (option : RepoOption) : ofKey? (Text.of option.key) = some option := by
  cases option <;> decide

end RepoOption

/-- What a caller hands over as an option. -/
inductive OptionArgument where
  | registered (option : RepoOption)
  /-- An option put together by the caller, whatever its key. -/
  | unregistered (spec : OptionSpec)
  /-- An option put together by the caller, with a key that is no text. -/
  | misnamed (kind : OptionKind) (key : Value)
  /-- Something that is no option. -/
  | value (value : Value)
deriving Repr

namespace OptionArgument

/-- The argument as messages show it. -/
def display : OptionArgument → Text
  | registered option => option.spec.display
  | unregistered spec => spec.display
  | misnamed kind key => Text.of s!"<{kind.optionName} " ++ key.display ++ ['>']
  | value content => content.display

/-- The argument is one of the registered options. -/
def isRegistered : OptionArgument → Bool
  | registered _ => true
  | _ => false

/-- What keeps an argument from being looked up among the registered options, by its key, or from
being shown when it is none of them. -/
def fault? : OptionArgument → Option ArgumentFault
  | misnamed _ key =>
    match key.unkeyable? with
    | some kind => some (.unkeyable kind)
    | none => if key.isShowable then none else some .unshowable
  | value content => if content.isShowable then none else some .unshowable
  | _ => none

end OptionArgument
end PackageRepos
