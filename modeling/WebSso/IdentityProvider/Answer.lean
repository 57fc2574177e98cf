import WebSso.Flow.Outcome
import WebSso.Flow.Step
import WebSso.IdentityProvider

/-!
# Answering requests

A provider answers a request for an authenticated user with a response that carries an assertion,
or with one that tells why there is none.  Without a request it can answer as if one had come from a
relying party that it knows.

## What is here

* `IdentityProvider.grant`, all that is decided before anything is signed: the user, the request
  ID, the assertion, its ID;
* `IdentityProvider.finish`, the text of a response, signed or not;
* `IdentityProvider.issue`, both together;
* `IdentityProvider.respond`, the answer to a request, and `IdentityProvider.authenticate`, the
  answer without one.
-/

set_option autoImplicit false
namespace WebSso

namespace IdentityProvider

/-! ## Before signing -/

/-- The user of a key.  To the outside, an unknown user is one that did not authenticate. -/
def authenticated (p : IdentityProvider) (key : String) : Step ResolvedIdentity := do
  match p.resolver.resolve key with
  | .ok identity =>
    Step.report identity.event
    return identity
  | .error (.unknownIdentity user) => Step.attempt (Stop.refuse (.authnFailed user))
  | .error cause => Step.attempt (Stop.refuse cause)

/-- Until when the ID of a request is remembered: as long as it could be answered, and as long as
the configuration says. -/
def rememberedUntil (p : IdentityProvider) (request : ReceivedRequest) (now : Instant) :
    Attempt Instant := do
  let configured ← Stop.inRange (now.add? p.replayWindow)
  let accepted ← p.acceptedUntil request.issueInstant
  return Instant.latest configured accepted

/-- The assertion about a user that answers a request. -/
def assertionFor (p : IdentityProvider) (request : ReceivedRequest) (solicited : Bool)
    (identity : ResolvedIdentity) (now : Instant) (id newSession : String) :
    Attempt Assertion := do
  let assertion ← Assertion.build p.entityId (p.subject identity) identity.released
    [request.issuer] p.window ⟨p.authnContextClass, some now, none⟩ now id newSession
  return { assertion with
    recipient := some request.acsUrl
    inResponseTo := if solicited then some request.id else none }

/-- The assertion about the user of a key that answers a request, once the IDs of both are taken. -/
def grant (p : IdentityProvider) (request : ReceivedRequest) (solicited : Bool) (key : String)
    (now : Instant) : Step Assertion := do
  let identity ← p.authenticated key
  Step.report (FlowState.transition .requestReceived .identityResolved request.id)
  let expiry ← Step.attempt (p.rememberedUntil request now)
  Step.consume request.id expiry now
  Step.report? (p.fallbackEvent? identity)
  let id ← Step.drawId
  let newSession ← Step.drawId
  let assertion ← Step.attempt (p.assertionFor request solicited identity now id newSession)
  Step.consume assertion.id assertion.notOnOrAfter now
  Step.report (FlowState.transition .identityResolved .assertionIssued request.id)
  return assertion

/-! ## Signing -/

/-- An element with the provider's signature. -/
def sealed (p : IdentityProvider) (element : Element) : Step SignedDocument := do
  Step.report? ((p.denied.firstDenied? p.options).map DenyList.refusedEvent)
  let document ← Step.require (sign p.denied p.signer p.key.certificate.der p.options element)
  Step.report document.event
  return document

/-- A response as it is posted, with the provider's signature or without. -/
def finish (p : IdentityProvider) (document : ResponseDocument) (signed : Bool) :
    Step FinishedResponse := do
  let element ← Step.attempt document.toElement
  let element ← if signed then SignedDocument.element <$> p.sealed element else pure element
  return {
    responseId := document.id
    inResponseTo := document.inResponseTo
    destination := document.destination
    assertionId := none
    status := document.status
    xml := element.toDocument }

/-! ## Responses -/

/-- The report that an assertion was issued. -/
def issuedEvent (request : ReceivedRequest) (assertion : Assertion) : Event :=
  .info "issued assertion"
    [("request", .text request.id), ("assertion", .text assertion.id),
      ("audience", .text request.issuer), ("subject", .text assertion.subject.nameId)]

/-- The response that carries an assertion about the user of a key. -/
def issue (p : IdentityProvider) (request : ReceivedRequest) (solicited : Bool) (key : String)
    (now : Instant) : Step FinishedResponse := do
  let assertion ← p.grant request solicited key now
  let element ← Step.attempt assertion.toElement
  let signed ← p.sealed element
  let id ← Step.drawId
  let response ← p.finish
    { id
      issuer := p.entityId
      issueInstant := assertion.issueInstant
      destination := some request.acsUrl
      inResponseTo := if solicited then some request.id else none
      status := .success
      assertion := some signed.element }
    p.signResponse
  Step.report (FlowState.transition .assertionIssued .responseSigned request.id)
  Step.report (FlowState.transition .responseSigned .success request.id)
  Step.report (issuedEvent request assertion)
  return { response with assertionId := some assertion.id }

/-- The response that tells why there is no assertion. -/
def errorResponse (p : IdentityProvider) (request : ReceivedRequest) (cause : Fault)
    (now : Instant) : Step FinishedResponse := do
  let id ← Step.drawId
  p.finish
    { id
      issuer := p.entityId
      issueInstant := now.wholeSeconds
      destination := some request.acsUrl
      inResponseTo := some request.id
      status := cause.status
      assertion := none }
    true

/-! ## Answers -/

/-- The answer to a request for the user of a key, if the request can still be answered. -/
def respond (p : IdentityProvider) (request : ReceivedRequest) (key : String) (now : Instant) :
    Step FlowOutcome := do
  let issued ← Step.catching do
    Step.attempt (p.checkFreshness request.id request.issueInstant now)
    p.issue request true key now
  match issued with
  | .ok response => return .success response
  | .error cause =>
    Step.report (FlowState.transition .requestReceived .rejected request.id)
    match ← Step.catching (p.errorResponse request cause now) with
    | .ok response => return .rejected cause (some response)
    | .error unsigned =>
      Step.report (.warn "could not sign error response" [("error", .text unsigned.message)])
      return .rejected cause none

/-- The request that a relying party could have sent just now. -/
def impliedRequest (p : IdentityProvider) (audience id : String) (now : Instant) :
    Except Fault ReceivedRequest :=
  match p.resolver.directory.serviceProvider? audience with
  | none => .error (.invalidAudience (audience ++ " is not a known service provider"))
  | some sp => sp.defaultAcsUrl.map fun acsUrl => ⟨id, audience, acsUrl, now, none⟩

/-- The answer for the user of a key to a relying party that sent no request. -/
def authenticate (p : IdentityProvider) (key audience : String) (now : Instant) :
    Step FinishedResponse := do
  let id ← Step.drawId
  let request ← Step.require (p.impliedRequest audience id now)
  Step.report (FlowState.transition .idle .requestReceived request.id)
  match ← Step.catching (p.issue request false key now) with
  | .ok response => return response
  | .error cause =>
    Step.report (.warn "unsolicited response rejected"
      [("error", .text cause.message), ("audience", .text audience)])
    Step.attempt (Stop.refuse cause)

end IdentityProvider

end WebSso
