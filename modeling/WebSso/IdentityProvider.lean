import WebSso.Assertion
import WebSso.Config.Directory
import WebSso.Metadata
import WebSso.Resolver
import WebSso.SignedDocument

/-!
# Identity providers

## What is here

* `IdentityProvider`, a configuration made ready to answer requests, and
  `IdentityProvider.ofConfig`;
* `IdentityProvider.metadata`, the document it publishes;
* `IdentityProvider.acceptedUntil` and `IdentityProvider.checkFreshness`, how long a request can be
  answered;
* `IdentityProvider.subject`, whom its assertions are about.
-/

set_option autoImplicit false
namespace WebSso

/-- A provider that is ready to answer requests. -/
structure IdentityProvider where
  /-- Its name. -/
  entityId : String
  /-- The endpoint that takes requests. -/
  ssoUrl : Option String
  /-- Its users, its relying parties and its release policy. -/
  resolver : Resolver
  /-- The algorithms it neither uses nor accepts. -/
  denied : DenyList
  /-- The algorithms it signs with. -/
  options : SignatureOptions
  /-- The key it signs with. -/
  key : SigningKey
  /-- What computes digests and signatures for it. -/
  signer : Signer
  /-- How long its assertions are valid. -/
  window : ValidityWindow
  /-- How long used request IDs are remembered, at least. -/
  replayWindow : Duration
  /-- How old a request may be. -/
  maxRequestAge : Duration
  /-- Whether a response is signed around its signed assertion. -/
  signResponse : Bool
  /-- How the NameID is chosen. -/
  nameId : NameIdPolicy
  /-- How users are stated to have authenticated. -/
  authnContextClass : String

namespace IdentityProvider

/-- The provider of a configuration, with a key to sign with. -/
def ofConfig (c : Config) (key : SigningKey) (signer : Signer) :
    Except Fault IdentityProvider := do
  c.validate
  let resolver ← c.resolver
  return {
    entityId := c.entityId
    ssoUrl := c.ssoUrl
    resolver
    denied := ⟨c.deniedAlgorithms⟩
    options := .default
    key
    signer
    window := ⟨c.assertionValidity, c.clockSkew⟩
    replayWindow := c.replayWindow
    maxRequestAge := c.maxRequestAge
    signResponse := c.signResponse
    nameId := c.nameId
    authnContextClass := c.authnContextClass }

/-- The relying parties of a provider. -/
def serviceProviders (p : IdentityProvider) : List ServiceProvider :=
  p.resolver.directory.serviceProviders

/-- The report that a provider is ready. -/
def configuredEvent (p : IdentityProvider) : Event :=
  .info "identity provider configured"
    [("entity_id", .text p.entityId), ("service_providers", .number p.serviceProviders.length)]

/-- How a provider is shown. -/
def describe (p : IdentityProvider) : String :=
  describePartly "IdentityProvider"
    [("entity_id", quoted p.entityId), ("window", p.window.describe),
      ("sign_response", if p.signResponse then "true" else "false")]

/-! ## Metadata -/

/-- What a provider with an endpoint says of itself: it takes requests there by both bindings, and
wants them signed if one of its relying parties has to sign them. -/
def metadataEdits (p : IdentityProvider) (ssoUrl : String) : List MetadataEdit :=
  [.entityId p.entityId, .certificate p.key.certificate.der, .location .post ssoUrl,
    .location .redirect ssoUrl, .nameIdFormat p.nameId.format,
    .wantsSignedRequests (p.serviceProviders.any (·.authnRequestsSigned))]

/-- The document that a provider publishes, for which it needs an endpoint. -/
def metadata (p : IdentityProvider) : Except Fault String :=
  match p.ssoUrl with
  | none => .error (.config "sso_url is required for metadata")
  | some url => (MetadataDraft.ofEdits (p.metadataEdits url)).finish.map (·.toDocument)

/-! ## Freshness -/

/-- The last instant at which a request of some instant can be answered. -/
def acceptedUntil (p : IdentityProvider) (issueInstant : Instant) : Attempt Instant := do
  let aged ← Stop.inRange (issueInstant.add? p.maxRequestAge)
  Stop.inRange (aged.add? p.window.clockSkew)

/-- Whether a request can be answered now: it is neither from the future nor too old, as far as
clocks can be apart. -/
def checkFreshness (p : IdentityProvider) (id : String) (issueInstant now : Instant) :
    Attempt Unit := do
  let latestIssue ← Stop.inRange (now.add? p.window.clockSkew)
  if latestIssue < issueInstant then
    Stop.refuse (.clockSkewExceeded ("request " ++ id ++ " issued in the future"))
  else
    let last ← p.acceptedUntil issueInstant
    if last < now then Stop.refuse (.clockSkewExceeded ("request " ++ id ++ " is too old"))
    else return ()

/-! ## Subjects -/

/-- The value that the policy takes for the NameID: that of an attribute, as it is released or else
as it is configured. -/
def configuredNameId? (p : IdentityProvider) (identity : ResolvedIdentity) : Option String :=
  p.nameId.sourceAttribute.bind fun name =>
    (identity.released.first? name).or (identity.raw.first? name)

/-- Whom an assertion about a user is about; the user name is taken if the policy has no value. -/
def subject (p : IdentityProvider) (identity : ResolvedIdentity) : Subject :=
  ⟨(p.configuredNameId? identity).getD identity.username, p.nameId.format⟩

/-- The report that the user name is taken. -/
def fallbackEvent? (p : IdentityProvider) (identity : ResolvedIdentity) : Option Event :=
  match p.configuredNameId? identity with
  | some _ => none
  | none =>
    some (.debug "NameID falls back to the username" [("identity", .text identity.username)])

end IdentityProvider

end WebSso
