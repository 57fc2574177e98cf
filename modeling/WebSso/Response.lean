import WebSso.Codec.Base64
import WebSso.Status
import WebSso.Time.Written
import WebSso.Vocabulary
import WebSso.Xml.Written

/-!
# Responses

The message that answers a request: its status and, if the request is met, an assertion.

## What is here

* `ResponseDocument`, what a response says, with `ResponseDocument.toElement`;
* `FinishedResponse`, the text of a response with what its sender has to know of it, and
  `FinishedResponse.encodePost`, as it is posted;
* `decodeResponse`, from the text that is posted to the bytes that were sent.
-/

set_option autoImplicit false
namespace WebSso

/-! ## What a response says -/

namespace Status

/-- A code, around the code below it. -/
def codeElement (code : StatusCode) (below : List Element) : Element :=
  Element.named (samlp "StatusCode") |>.attr "Value" code.uri |>.addChildren below

/-- The message for the reader. -/
def messageElement (message : String) : Element :=
  Element.named (samlp "StatusMessage") |>.addText message

/-- The form of a status in a document. -/
def toElement (s : Status) : Element :=
  let below := s.subCode.map fun code => codeElement code []
  Element.named (samlp "Status")
    |>.addChildren (codeElement s.code below.toList :: (s.message.map messageElement).toList)

end Status

/-- What a response says. -/
structure ResponseDocument where
  /-- The ID of the response. -/
  id : String
  /-- Who responds. -/
  issuer : String
  /-- When it is issued. -/
  issueInstant : Instant
  /-- The endpoint it is sent to. -/
  destination : Option String
  /-- The request it answers, if it answers one. -/
  inResponseTo : Option String
  /-- How the request was met. -/
  status : Status
  /-- The assertion it carries. -/
  assertion : Option Element
  deriving DecidableEq

/-- The form of a response in a document.  Its instant has to be written. -/
def ResponseDocument.toElement (d : ResponseDocument) : Attempt Element := do
  let issued ← d.issueInstant.write
  return Element.named (samlp "Response")
    |>.declare (some "samlp") protocolNamespace
    |>.declare (some "saml") assertionNamespace
    |>.attr "ID" d.id
    |>.attr "Version" "2.0"
    |>.attr "IssueInstant" issued
    |>.attr? "Destination" d.destination
    |>.attr? "InResponseTo" d.inResponseTo
    |>.addChildren
      ((Element.named (saml "Issuer") |>.addText d.issuer) :: d.status.toElement
        :: d.assertion.toList)

/-! ## Responses on the wire -/

/-- A response that is ready to be posted. -/
structure FinishedResponse where
  /-- Its ID. -/
  responseId : String
  /-- The request it answers, if it answers one. -/
  inResponseTo : Option String
  /-- The endpoint it is sent to. -/
  destination : Option String
  /-- The ID of the assertion it carries, if it carries one. -/
  assertionId : Option String
  /-- How the request was met. -/
  status : Status
  /-- Its text. -/
  xml : String
  deriving DecidableEq

/-- The text of a response as it is posted. -/
def FinishedResponse.encodePost (r : FinishedResponse) : String :=
  Base64.encode (Bytes.ofString r.xml)

/-- The bytes of a posted response. -/
def decodeResponse (text : String) : Except Fault Bytes :=
  match Base64.decodeText? text with
  | some bytes => .ok bytes
  | none => .error (.invalidResponse "base64:")

/-! ## Reading -/

/-- The one member of a list that has to have exactly one. -/
def single {α : Type} (what : String) : List α → Except Fault α
  | [a] => .ok a
  | l =>
    .error (.invalidAssertion
      ("expected exactly one " ++ what ++ ", found " ++ toString l.length))

end WebSso
