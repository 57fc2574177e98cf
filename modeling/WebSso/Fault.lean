import WebSso.Status

/-!
# What can go wrong

Every refusal of the library is a `Fault`: its cause, with the name or the words that the cause
is about.

## What is here

* `Fault`, one constructor for each cause;
* `Fault.message`, the wording of a fault, which is also what a service provider is told;
* `Fault.status`, the status a response carries when a fault ends the flow: who is to blame,
  and with which code below.
-/

set_option autoImplicit false
namespace WebSso

/-- The causes of a refusal. -/
inductive Fault where
  /-- A request whose issuer is no known service provider. -/
  | unknownIssuer (issuer : String)
  /-- No identity is kept under the key of this user. -/
  | unknownIdentity (user : String)
  /-- The user did not prove who they are. -/
  | authnFailed (user : String)
  /-- An assertion cannot be addressed as asked. -/
  | invalidAudience (detail : String)
  /-- A message ID was used before and is still remembered. -/
  | replayDetected (id : String)
  /-- A signature does not cover what it claims to cover. -/
  | signatureMismatch (detail : String)
  /-- The certificate of a signature is not a trusted one. -/
  | untrustedCertificate
  /-- A certificate is used outside its validity period. -/
  | expiredCertificate
  /-- A message is too old, or comes from the future. -/
  | clockSkewExceeded (detail : String)
  /-- An algorithm is on the deny list. -/
  | deniedAlgorithm (uri : String)
  /-- An algorithm is not known. -/
  | unsupportedAlgorithm (uri : String)
  /-- A message that has to be signed is not. -/
  | missingSignature (what : String)
  /-- A response was asked for at an endpoint that is not registered. -/
  | acsUrlMismatch (entityId actual : String)
  /-- An XML tool refused its input. -/
  | invalidXml (detail : String)
  /-- A document does not have the form it needs. -/
  | malformedXml (detail : String)
  /-- An authentication request is not acceptable. -/
  | invalidRequest (detail : String)
  /-- A response is not acceptable. -/
  | invalidResponse (detail : String)
  /-- A metadata document is not acceptable. -/
  | invalidMetadata (detail : String)
  /-- An assertion is not acceptable. -/
  | invalidAssertion (detail : String)
  /-- A condition of an assertion does not hold. -/
  | conditionNotMet (detail : String)
  /-- A response carries another status than success. -/
  | statusNotSuccess (status : String)
  /-- The configuration does not describe a provider. -/
  | config (detail : String)
  /-- A key or a certificate cannot be used. -/
  | key (detail : String)
  /-- A value has no written form. -/
  | serialization (detail : String)
  /-- The cryptographic engine failed. -/
  | crypto
  deriving DecidableEq

namespace Fault

/-- The wording of a fault. -/
def message : Fault → String
  | unknownIssuer issuer => "unknown issuer: " ++ issuer
  | unknownIdentity user => "unknown identity: " ++ user
  | authnFailed user => "authentication failed for " ++ user
  | invalidAudience detail => "invalid audience: " ++ detail
  | replayDetected id => "replay detected for ID " ++ id
  | signatureMismatch detail => "signature mismatch: " ++ detail
  | untrustedCertificate => "untrusted certificate"
  | expiredCertificate => "certificate is expired or not yet valid"
  | clockSkewExceeded detail => "clock skew exceeded: " ++ detail
  | deniedAlgorithm uri => "algorithm is denied: " ++ uri
  | unsupportedAlgorithm uri => "unsupported algorithm: " ++ uri
  | missingSignature what => "missing signature on " ++ what
  | acsUrlMismatch entityId actual =>
      "assertion consumer service " ++ actual ++ " is not registered for " ++ entityId
  | invalidXml detail => "invalid XML: " ++ detail
  | malformedXml detail => "malformed XML: " ++ detail
  | invalidRequest detail => "invalid AuthnRequest: " ++ detail
  | invalidResponse detail => "invalid Response: " ++ detail
  | invalidMetadata detail => "invalid metadata: " ++ detail
  | invalidAssertion detail => "invalid assertion: " ++ detail
  | conditionNotMet detail => "condition not met: " ++ detail
  | statusNotSuccess status => "response status is " ++ status
  | config detail => "configuration error: " ++ detail
  | key detail => "key error: " ++ detail
  | serialization detail => "serialization error: " ++ detail
  | crypto => "OpenSSL error"

/-- The codes of the status a fault is reported with.  A user who could not be authenticated is
the responder's finding; a message that must not be acted on is the requester's fault and its
request is denied; a message that cannot be understood is the requester's fault; all else is the
responder's own. -/
def codes : Fault → StatusCode × Option StatusCode
  | unknownIdentity _ | authnFailed _ => (.responder, some .authnFailed)
  | replayDetected _ | clockSkewExceeded _ | signatureMismatch _ | untrustedCertificate
  | expiredCertificate | deniedAlgorithm _ | missingSignature _ =>
      (.requester, some .requestDenied)
  | unknownIssuer _ | invalidAudience _ | acsUrlMismatch _ _ | invalidRequest _ | invalidXml _
  | malformedXml _ | unsupportedAlgorithm _ => (.requester, none)
  | _ => (.responder, none)

/-- The status a response carries when this fault ends the flow; the message is the wording. -/
def status (f : Fault) : Status :=
  { code := f.codes.1, subCode := f.codes.2, message := some f.message }

end Fault

end WebSso
