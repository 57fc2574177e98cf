import WebSso.Attributes.Filter
import WebSso.Crypto.DenyList
import WebSso.Fault
import WebSso.Text.Blank
import WebSso.Time.Instant

/-!
# The configuration of an identity provider

## What is here

* `Config`, what an operator says about a provider, with `Config.defaults` for what is not said;
* the durations it stands for: `assertionValidity`, `clockSkew`, `replayWindow`, `maxRequestAge`;
* `Config.validate`, the rules that a configuration has to keep on its own.
-/

set_option autoImplicit false
namespace WebSso

/-- A user the provider can vouch for: the key `user:password` and what is released about them. -/
structure IdentityRecord where
  /-- The key it is looked up by. -/
  key : String
  /-- The attributes, before any filter. -/
  attributes : Attributes
  deriving DecidableEq

/-- A relying party as it is configured. -/
structure ServiceProviderConfig where
  /-- Its name. -/
  entityId : String
  /-- The endpoints that take responses, the default one first. -/
  acsUrls : List String
  /-- The certificate its requests are signed with, as PEM text. -/
  certificatePem : Option String
  /-- Whether its requests have to be signed. -/
  authnRequestsSigned : Bool
  deriving DecidableEq

/-- How the NameID of an assertion is chosen. -/
structure NameIdPolicy where
  /-- The attribute whose first value it is; the user name otherwise. -/
  sourceAttribute : Option String
  /-- The format it is stated to have. -/
  format : String
  deriving DecidableEq

/-- What an operator says about a provider.  Spans of time are whole seconds of 64 bits. -/
structure Config where
  /-- The name of the provider. -/
  entityId : String
  /-- The endpoint that takes requests. -/
  ssoUrl : Option String
  /-- How long an assertion is valid. -/
  assertionValiditySecs : Nat
  /-- How far clocks may be apart. -/
  clockSkewSecs : Nat
  /-- How long used request IDs are remembered; as long as an assertion is valid, unless said. -/
  replayWindowSecs : Option Nat
  /-- How old a request may be. -/
  maxRequestAgeSecs : Nat
  /-- Whether the response is signed around its signed assertion. -/
  signResponse : Bool
  /-- The algorithms that are refused. -/
  deniedAlgorithms : List String
  /-- How users are stated to have authenticated. -/
  authnContextClass : String
  /-- How the NameID is chosen. -/
  nameId : NameIdPolicy
  /-- The release policy. -/
  attributeFilters : List AttributeFilter
  /-- The relying parties. -/
  serviceProviders : List ServiceProviderConfig
  /-- The users. -/
  identities : List IdentityRecord
  deriving DecidableEq

/-- The policy of a provider that was told nothing: the user name, in no particular format. -/
def NameIdPolicy.default : NameIdPolicy := ⟨none, nameIdUnspecified⟩

namespace Config

/-- A configuration that says nothing, with an empty name. -/
def defaults : Config where
  entityId := ""
  ssoUrl := none
  assertionValiditySecs := 300
  clockSkewSecs := 60
  replayWindowSecs := none
  maxRequestAgeSecs := 300
  signResponse := true
  deniedAlgorithms := DenyList.default.uris
  authnContextClass := passwordProtectedTransport
  nameId := .default
  attributeFilters := []
  serviceProviders := []
  identities := []

/-! ## Durations -/

/-- How long an assertion is valid. -/
def assertionValidity (c : Config) : Duration := .ofConfigured c.assertionValiditySecs

/-- How far clocks may be apart. -/
def clockSkew (c : Config) : Duration := .ofConfigured c.clockSkewSecs

/-- How long used request IDs are remembered. -/
def replayWindow (c : Config) : Duration :=
  .ofConfigured (c.replayWindowSecs.getD c.assertionValiditySecs)

/-- How old a request may be. -/
def maxRequestAge (c : Config) : Duration := .ofConfigured c.maxRequestAgeSecs

/-! ## Rules -/

/-- The rules about relying parties, each checked against those before it: no name is given twice,
and each has an endpoint. -/
def validateServiceProviders (seen : List String) :
    List ServiceProviderConfig → Except Fault Unit
  | [] => .ok ()
  | sp :: rest =>
    if seen.contains sp.entityId then
      .error (.config ("service provider " ++ sp.entityId ++ " is listed twice"))
    else if sp.acsUrls.isEmpty then
      .error (.config ("service provider " ++ sp.entityId ++ " has no acs_urls"))
    else validateServiceProviders (sp.entityId :: seen) rest

/-- The rules that a configuration has to keep on its own. -/
def validate (c : Config) : Except Fault Unit :=
  if isBlankText c.entityId then .error (.config "entity_id is empty")
  else if c.assertionValiditySecs = 0 then
    .error (.config "assertion_validity_secs must be positive")
  else validateServiceProviders [] c.serviceProviders

end Config

end WebSso
