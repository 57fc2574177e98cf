import WebSso.Attributes
import WebSso.Attributes.FriendlyName
import WebSso.Text.Blank
import WebSso.Time.Written
import WebSso.Vocabulary
import WebSso.Xml.Written

/-!
# Assertions

What an identity provider states of a user: who it is, whom the statement is for, when it is valid,
how the user authenticated, and what is released about them.

## What is here

* `ValidityWindow`, `AuthnContext` and `Subject`, what an assertion is built from;
* `Assertion` and `Assertion.build`, which needs an audience and instants that can be shown;
* `Assertion.toElement`, its form in a document.
-/

set_option autoImplicit false
namespace WebSso

/-! ## What an assertion is built from -/

/-- How long an assertion is valid around its issue. -/
structure ValidityWindow where
  /-- How long it is valid after its issue. -/
  validity : Duration
  /-- How long it is valid before its issue, for receivers whose clock is behind. -/
  clockSkew : Duration
  deriving DecidableEq

namespace ValidityWindow

/-- Five minutes, and one minute for clocks. -/
def default : ValidityWindow := ⟨.seconds 300, .seconds 60⟩

/-- How a window is shown. -/
def describe (w : ValidityWindow) : String :=
  describeRecord "ValidityWindow"
    [("validity", w.validity.describe), ("clock_skew", w.clockSkew.describe)]

end ValidityWindow

/-- How a user authenticated. -/
structure AuthnContext where
  /-- The class of authentication. -/
  classRef : String
  /-- When, if not just now. -/
  authnInstant : Option Instant
  /-- The session it began, if it is not a new one. -/
  sessionIndex : Option String
  deriving DecidableEq

/-- A user who gave a password just now and begins a session. -/
def AuthnContext.default : AuthnContext := ⟨passwordProtectedTransport, none, none⟩

/-- Whom an assertion is about. -/
structure Subject where
  /-- The NameID. -/
  nameId : String
  /-- The format it is stated to have. -/
  format : String
  deriving DecidableEq

/-! ## Assertions -/

/-- What is stated of a user. -/
structure Assertion where
  /-- The ID of the assertion. -/
  id : String
  /-- Who states it. -/
  issuer : String
  /-- Whom it is about. -/
  subject : Subject
  /-- When it was issued. -/
  issueInstant : Instant
  /-- The first instant at which it is valid. -/
  notBefore : Instant
  /-- The instant at which it ends to be valid. -/
  notOnOrAfter : Instant
  /-- Whom it is for. -/
  audiences : List String
  /-- What is released about the user. -/
  attributes : Attributes
  /-- When the user authenticated. -/
  authnInstant : Instant
  /-- The class of authentication. -/
  authnContextClass : String
  /-- The session that it belongs to. -/
  sessionIndex : String
  /-- The request it answers, if it answers one. -/
  inResponseTo : Option String
  /-- The endpoint it may be delivered to. -/
  recipient : Option String
  deriving DecidableEq

namespace Assertion

/-- An assertion issued at the second of `now`, with an ID and the ID of a session to begin if the
context names none.  There has to be an audience, and none may be blank. -/
def build (issuer : String) (subject : Subject) (attributes : Attributes) (audiences : List String)
    (window : ValidityWindow) (context : AuthnContext) (now : Instant) (id newSession : String) :
    Attempt Assertion :=
  if audiences.isEmpty || audiences.any isBlankText then
    Stop.refuse (.invalidAudience "assertion needs at least one audience")
  else do
    let issued := now.wholeSeconds
    let notBefore ← Stop.inRange (issued.sub? window.clockSkew)
    let notOnOrAfter ← Stop.inRange (issued.add? window.validity)
    return {
      id
      issuer
      subject
      issueInstant := issued
      notBefore
      notOnOrAfter
      audiences
      attributes
      authnInstant := (context.authnInstant.map (·.wholeSeconds)).getD issued
      authnContextClass := context.classRef
      sessionIndex := context.sessionIndex.getD newSession
      inResponseTo := none
      recipient := none }

/-! ## In a document -/

/-- The format of an attribute name that is a URI. -/
def uriNameFormat : String := "urn:oasis:names:tc:SAML:2.0:attrname-format:uri"

/-- The format of any other attribute name. -/
def basicNameFormat : String := "urn:oasis:names:tc:SAML:2.0:attrname-format:basic"

/-- The method of confirmation: whoever bears the assertion is its subject. -/
def bearer : String := "urn:oasis:names:tc:SAML:2.0:cm:bearer"

/-- The format of an attribute name. -/
def nameFormat (name : String) : String :=
  if "urn:".toList.isPrefixOf name.toList then uriNameFormat else basicNameFormat

/-- An attribute with its values. -/
def attributeElement (entry : AttributeEntry) : Element :=
  Element.named (saml "Attribute")
    |>.attr "Name" entry.1
    |>.attr "NameFormat" (nameFormat entry.1)
    |>.attr? "FriendlyName" (friendlyName? entry.1)
    |>.addChildren (entry.2.map fun value => Element.named (saml "AttributeValue") |>.addText value)

/-- Whom an assertion is about, and how they are confirmed to be that. -/
def subjectElement (a : Assertion) (notOnOrAfter : String) : Element :=
  Element.named (saml "Subject")
    |>.addChild
      (Element.named (saml "NameID")
        |>.attr "Format" a.subject.format
        |>.addText a.subject.nameId)
    |>.addChild
      (Element.named (saml "SubjectConfirmation")
        |>.attr "Method" bearer
        |>.addChild
          (Element.named (saml "SubjectConfirmationData")
            |>.attr "NotOnOrAfter" notOnOrAfter
            |>.attr? "Recipient" a.recipient
            |>.attr? "InResponseTo" a.inResponseTo))

/-- When and for whom an assertion is valid. -/
def conditionsElement (a : Assertion) (notBefore notOnOrAfter : String) : Element :=
  Element.named (saml "Conditions")
    |>.attr "NotBefore" notBefore
    |>.attr "NotOnOrAfter" notOnOrAfter
    |>.addChild
      (Element.named (saml "AudienceRestriction")
        |>.addChildren (a.audiences.map fun audience =>
          Element.named (saml "Audience") |>.addText audience))

/-- How the user authenticated. -/
def authnElement (a : Assertion) (authnInstant : String) : Element :=
  Element.named (saml "AuthnStatement")
    |>.attr "AuthnInstant" authnInstant
    |>.attr "SessionIndex" a.sessionIndex
    |>.addChild
      (Element.named (saml "AuthnContext")
        |>.addChild
          (Element.named (saml "AuthnContextClassRef") |>.addText a.authnContextClass))

/-- What is released about the user; nothing is said if it is nothing. -/
def attributeStatement (a : Assertion) : List Element :=
  if a.attributes.isEmpty then []
  else
    [Element.named (saml "AttributeStatement")
      |>.addChildren (a.attributes.entries.map attributeElement)]

/-- The form of an assertion in a document.  Its instants have to be written. -/
def toElement (a : Assertion) : Attempt Element := do
  let issued ← a.issueInstant.write
  let notOnOrAfter ← a.notOnOrAfter.write
  let notBefore ← a.notBefore.write
  let authnInstant ← a.authnInstant.write
  return Element.named (saml "Assertion")
    |>.declare (some "saml") assertionNamespace
    |>.attr "ID" a.id
    |>.attr "Version" "2.0"
    |>.attr "IssueInstant" issued
    |>.addChildren
      (((Element.named (saml "Issuer") |>.addText a.issuer) :: a.subjectElement notOnOrAfter
        :: a.conditionsElement notBefore notOnOrAfter :: a.authnElement authnInstant
        :: a.attributeStatement))

end Assertion

end WebSso
