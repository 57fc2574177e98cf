import Std.Data.HashMap
import WebSso.Config
import WebSso.Crypto.Certificate

/-!
# The directory of a provider

What a configuration amounts to once its certificates are read: the users that can be looked up and
the relying parties that are known.

## What is here

* `ServiceProvider`, a relying party, with `defaultAcsUrl?` and `acceptsAcsUrl`;
* `Directory`, users and relying parties; `Directory.identity?` looks a user up through an index,
  and `Directory.serviceProvider?` a relying party by its name;
* `Config.directory`, the directory of a configuration, which fails if a certificate cannot be read
  or is missing.
-/

set_option autoImplicit false
namespace WebSso

/-! ## Relying parties -/

/-- A relying party. -/
structure ServiceProvider where
  /-- Its name. -/
  entityId : String
  /-- The endpoints that take responses, the default one first. -/
  acsUrls : List String
  /-- The bytes of the certificate its requests are signed with. -/
  signingCertificate : Option Bytes
  /-- Whether its requests have to be signed. -/
  authnRequestsSigned : Bool
  deriving DecidableEq

namespace ServiceProvider

/-- The endpoint that takes responses unless another one is asked for. -/
def defaultAcsUrl? (sp : ServiceProvider) : Option String := sp.acsUrls.head?

/-- Whether an endpoint is one of those that take responses. -/
def acceptsAcsUrl (sp : ServiceProvider) (url : String) : Bool := sp.acsUrls.contains url

/-- The default endpoint, which there has to be. -/
def defaultAcsUrl (sp : ServiceProvider) : Except Fault String :=
  match sp.defaultAcsUrl? with
  | some url => .ok url
  | none => .error (.config (sp.entityId ++ " has no assertion consumer service"))

/-- The certificate of a configured relying party; `readPem` takes PEM text to the bytes of the
certificate in it. -/
def readCertificate (readPem : Bytes → Option Bytes) (sp : ServiceProviderConfig) :
    Except Fault (Option Bytes) :=
  match sp.certificatePem with
  | none => .ok none
  | some pem =>
    match readPem (Bytes.ofString pem) with
    | some der => .ok (some der)
    | none => .error (.config ("certificate of " ++ sp.entityId ++ ":"))

/-- A configured relying party.  One that has to sign its requests needs a certificate. -/
def ofConfig (readPem : Bytes → Option Bytes) (sp : ServiceProviderConfig) :
    Except Fault ServiceProvider :=
  match readCertificate readPem sp with
  | .error e => .error e
  | .ok certificate =>
    if sp.authnRequestsSigned ∧ certificate = none then
      .error (.config (sp.entityId ++ " requires signed requests but has no certificate"))
    else .ok ⟨sp.entityId, sp.acsUrls, certificate, sp.authnRequestsSigned⟩

end ServiceProvider

/-! ## Directories -/

/-- The places of identities by their keys.  Of two with one key, the later one counts. -/
def identityIndex (identities : List IdentityRecord) : Std.HashMap String Nat :=
  Std.HashMap.ofList (identities.zipIdx.map fun (identity, place) => (identity.key, place))

/-- Users and relying parties. -/
structure Directory where
  /-- The users, in configured order. -/
  identities : List IdentityRecord
  /-- The relying parties, in configured order. -/
  serviceProviders : List ServiceProvider
  /-- Where the user of a key stands. -/
  index : Std.HashMap String Nat := identityIndex identities
  /-- The index is that of the users. -/
  index_eq : index = identityIndex identities := by rfl

namespace Directory

/-- The user of a key. -/
def identity? (d : Directory) (key : String) : Option IdentityRecord :=
  d.index[key]?.bind fun place => d.identities[place]?

/-- The relying party of a name. -/
def serviceProvider? (d : Directory) (entityId : String) : Option ServiceProvider :=
  d.serviceProviders.find? fun sp => sp.entityId == entityId

end Directory

namespace Config

/-- The directory of a configuration, certificates being read by `readPem`.  The first relying
party that cannot be used is reported. -/
def directoryWith (readPem : Bytes → Option Bytes) (c : Config) : Except Fault Directory :=
  match c.serviceProviders.mapM (ServiceProvider.ofConfig readPem) with
  | .error e => .error e
  | .ok serviceProviders => .ok { identities := c.identities, serviceProviders }

/-- The directory of a configuration. -/
def directory (c : Config) : Except Fault Directory :=
  c.directoryWith fun pem => (Certificate.ofPem? pem).map (·.der)

end Config

end WebSso
