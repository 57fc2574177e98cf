/-!
# The status of a response

Every response says how its request was met: a status code, at times a code below it that says
more, and a message for the reader.

## What is here

* `StatusCode` with the URI each code is written as, and `StatusCode.ofUri?`, which reads it back;
* `Status`, a code with what may stand below and beside it.
-/

set_option autoImplicit false
namespace WebSso

/-- The codes a response can carry, at the top or below another code. -/
inductive StatusCode where
  | success
  | requester
  | responder
  | versionMismatch
  | authnFailed
  | requestDenied
  | unknownPrincipal
  deriving DecidableEq

namespace StatusCode

/-- Every code, in the order in which a URI is looked up. -/
def all : List StatusCode :=
  [success, requester, responder, versionMismatch, authnFailed, requestDenied, unknownPrincipal]

/-- The URI a code is written as. -/
def uri : StatusCode → String
  | success => "urn:oasis:names:tc:SAML:2.0:status:Success"
  | requester => "urn:oasis:names:tc:SAML:2.0:status:Requester"
  | responder => "urn:oasis:names:tc:SAML:2.0:status:Responder"
  | versionMismatch => "urn:oasis:names:tc:SAML:2.0:status:VersionMismatch"
  | authnFailed => "urn:oasis:names:tc:SAML:2.0:status:AuthnFailed"
  | requestDenied => "urn:oasis:names:tc:SAML:2.0:status:RequestDenied"
  | unknownPrincipal => "urn:oasis:names:tc:SAML:2.0:status:UnknownPrincipal"

/-- The code written as `u`, if there is one. -/
def ofUri? (u : String) : Option StatusCode :=
  all.find? fun code => code.uri == u

theorem ofUri?_uri (code : StatusCode) : ofUri? code.uri = some code := by
  cases code <;> decide +kernel

end StatusCode

/-- How a request was met. -/
structure Status where
  /-- The top code. -/
  code : StatusCode
  /-- The code below it, which says more. -/
  subCode : Option StatusCode
  /-- What a reader is told. -/
  message : Option String
  deriving DecidableEq

namespace Status

/-- The status of a response that carries an assertion. -/
def success : Status := ⟨.success, none, none⟩

/-- A request is met exactly if the top code says so, whatever stands below it. -/
def isSuccess (s : Status) : Bool := s.code == .success

end Status

end WebSso
