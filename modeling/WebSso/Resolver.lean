import WebSso.Config.Directory
import WebSso.Event
import WebSso.Text.Described

/-!
# Resolving identities

A user is looked up by the key `user:password`; what is released about them is what the release
policy leaves of their attributes.

## What is here

* `username`, the part of a key that may be shown;
* `ResolvedIdentity`, a user as found and as released;
* `Resolver`, a directory with a release policy, with `Resolver.resolve`, the user of a key, and
  `Resolver.release`, what is released about them.
-/

set_option autoImplicit false
namespace WebSso

/-- The user that a key names: what stands before its first colon, or all of it if it has none. -/
def username (key : String) : String := String.ofList (key.toList.takeWhile (· != ':'))

/-- A user as found and as released. -/
structure ResolvedIdentity where
  /-- The key. -/
  key : String
  /-- The part of the key that may be shown. -/
  username : String
  /-- The attributes as configured. -/
  raw : Attributes
  /-- The attributes that are released. -/
  released : Attributes
  deriving DecidableEq

/-- A directory with a release policy. -/
structure Resolver where
  /-- Where users are looked up. -/
  directory : Directory
  /-- The release policy. -/
  filters : List AttributeFilter

/-- The resolver of a configuration. -/
def Config.resolver (c : Config) : Except Fault Resolver :=
  match c.directory with
  | .error e => .error e
  | .ok directory => .ok ⟨directory, c.attributeFilters⟩

namespace ResolvedIdentity

/-- The report that an identity was found. -/
def event (identity : ResolvedIdentity) : Event :=
  .debug "resolved attributes"
    [("identity", .text identity.username), ("attributes", .number identity.released.size)]

end ResolvedIdentity

namespace AttributeFilter

/-- How a filter is shown. -/
def describe : AttributeFilter → String
  | rename source target =>
      describeRecord "Rename" [("from", quoted source), ("to", quoted target)]
  | singleValue name => describeRecord "SingleValue" [("name", quoted name)]
  | scope name domain =>
      describeRecord "Scope" [("name", quoted name), ("domain", quoted domain)]
  | allow names => describeRecord "Allow" [("names", describeList (names.map quoted))]
  | mapValue name source target =>
      describeRecord "MapValue"
        [("name", quoted name), ("from", quoted source), ("to", quoted target)]

end AttributeFilter

namespace Resolver

/-- The user of a key, if there is one.  A refusal names the user and not the password. -/
def resolve (r : Resolver) (key : String) : Except Fault ResolvedIdentity :=
  match r.directory.identity? key with
  | none => .error (.unknownIdentity (username key))
  | some record =>
    .ok
      { key := record.key
        username := username record.key
        raw := record.attributes
        released := applyFilters r.filters record.attributes }

/-- What is released about the user of a key, if there is one. -/
def release (r : Resolver) (key : String) : Except Fault Attributes :=
  (r.resolve key).map (·.released)

/-- How a resolver is shown: its policy, and not its users. -/
def describe (r : Resolver) : String :=
  describePartly "AttributeResolver" [("filters", describeList (r.filters.map (·.describe)))]

end Resolver

end WebSso
