import WebSso.Binding
import WebSso.Time.Written
import WebSso.Vocabulary
import WebSso.Xml.Written

/-!
# Authentication requests

The message by which a service provider asks for a user to be authenticated.

## What is here

* `AuthnRequestDraft`, what has been said of a request so far, and `AuthnRequestEdit`, one thing
  that can be said; a thing said again replaces what was said before;
* `AuthnRequestDraft.toElement`, the request of a draft in which nothing required is missing;
* `AuthnRequestDraft.toDocument` and `AuthnRequestDraft.toRedirect`, its text as posted and as
  redirected, and `AuthnRequestDraft.toRedirectWith`, the latter with any compression.
-/

set_option autoImplicit false
namespace WebSso

/-- What has been said of a request. -/
structure AuthnRequestDraft where
  /-- The ID of the request. -/
  id : Option String
  /-- When it is issued. -/
  issueInstant : Option Instant
  /-- Who asks. -/
  issuer : Option String
  /-- The endpoint it is sent to. -/
  destination : Option String
  /-- How the response is to travel. -/
  binding : Binding
  /-- The endpoint that takes the response. -/
  consumerUrl : Option String
  /-- The format of NameID that is asked for. -/
  nameFormat : Option String
  /-- Whether a NameID may be created for the user. -/
  allowCreate : Bool
  /-- The user, if it has to be this one. -/
  subject : Option String
  deriving DecidableEq

/-- One thing that can be said of a request. -/
inductive AuthnRequestEdit where
  | id (value : String)
  | issueInstant (value : Instant)
  | issuer (value : String)
  | destination (value : String)
  | binding (value : Binding)
  | consumerUrl (value : String)
  | nameFormat (value : String)
  | allowCreate (value : Bool)
  | subject (value : String)
  deriving DecidableEq

namespace AuthnRequestDraft

/-! ## Drafts -/

/-- A draft of which nothing has been said. -/
def blank : AuthnRequestDraft where
  id := none
  issueInstant := none
  issuer := none
  destination := none
  binding := .default
  consumerUrl := none
  nameFormat := none
  allowCreate := true
  subject := none

/-- The draft after one more thing was said. -/
def edit (d : AuthnRequestDraft) : AuthnRequestEdit → AuthnRequestDraft
  | .id value => { d with id := some value }
  | .issueInstant value => { d with issueInstant := some value }
  | .issuer value => { d with issuer := some value }
  | .destination value => { d with destination := some value }
  | .binding value => { d with binding := value }
  | .consumerUrl value => { d with consumerUrl := some value }
  | .nameFormat value => { d with nameFormat := some value }
  | .allowCreate value => { d with allowCreate := value }
  | .subject value => { d with subject := some value }

/-- The draft of which some things were said, first to last. -/
def ofEdits (edits : List AuthnRequestEdit) : AuthnRequestDraft := edits.foldl edit blank

/-! ## Requests -/

/-- What has to have been said. -/
def required {α : Type} (what : String) : Option α → Attempt α
  | some value => .ok value
  | none => Stop.refuse (.invalidRequest (what ++ " is required"))

/-- The part of a request that names a user. -/
def subjectElement (nameFormat subject : String) : Element :=
  Element.named (saml "Subject")
    |>.addChild (Element.named (saml "NameID") |>.attr "Format" nameFormat |>.addText subject)

/-- The part of a request that names who asks. -/
def issuerElement (issuer : String) : Element :=
  Element.named (saml "Issuer") |>.attr "Format" nameIdEntity |>.addText issuer

/-- The text of a flag. -/
def flagText (flag : Bool) : String := if flag then "true" else "false"

/-- The part of a request that says which NameID is asked for. -/
def policyElement (nameFormat : String) (allowCreate : Bool) : Element :=
  Element.named (samlp "NameIDPolicy")
    |>.attr "Format" nameFormat
    |>.attr "AllowCreate" (flagText allowCreate)

/-- The request of a draft.  The first thing that is missing is reported. -/
def toElement (d : AuthnRequestDraft) : Attempt Element := do
  let nameFormat ← required "name format" d.nameFormat
  let issueInstant ← required "IssueInstant" d.issueInstant
  let id ← required "ID" d.id
  let issued ← issueInstant.write
  let destination ← required "Destination" d.destination
  let consumerUrl ← required "consumer URL" d.consumerUrl
  let issuer ← required "Issuer" d.issuer
  let subject := d.subject.map (subjectElement nameFormat)
  let policy := policyElement nameFormat d.allowCreate
  return Element.named (samlp "AuthnRequest")
    |>.declare (some "samlp") protocolNamespace
    |>.declare (some "saml") assertionNamespace
    |>.attr "ID" id
    |>.attr "Version" "2.0"
    |>.attr "IssueInstant" issued
    |>.attr "Destination" destination
    |>.attr "ProtocolBinding" d.binding.uri
    |>.attr "AssertionConsumerServiceURL" consumerUrl
    |>.addChildren (issuerElement issuer :: subject.toList ++ [policy])

/-- The text of the request of a draft. -/
def toDocument (d : AuthnRequestDraft) : Attempt String := do
  return (← d.toElement).toDocument

/-- The text of the request of a draft as it is sent in an address, with the given compression. -/
def toRedirectWith (compress : Bytes → Bytes) (d : AuthnRequestDraft) : Attempt String := do
  return encodeRedirectedWith compress (← d.toDocument)

/-- The text of the request of a draft as it is sent in an address. -/
def toRedirect : AuthnRequestDraft → Attempt String := toRedirectWith Deflate.deflate

end AuthnRequestDraft

end WebSso
