import WebSso.Codec.Base64
import WebSso.Codec.Deflate.Stored
import WebSso.Fault

/-!
# Bindings

How a request travels through the user's browser: as a posted form, where it is base64 text, or in
the address of a redirect, where it is compressed first.

## What is here

* `Binding`, with the URI of each and `Binding.ofUri?`;
* `decodePosted` and `decodeRedirected`, from the text that arrives to the bytes that were sent, and
  `Binding.decode`, the one that goes with a binding;
* `encodeRedirectedWith`, the text that is sent in an address, with any compression.
-/

set_option autoImplicit false
namespace WebSso

/-- How a message travels. -/
inductive Binding where
  /-- As a posted form. -/
  | post
  /-- In the address of a redirect. -/
  | redirect
  deriving DecidableEq

namespace Binding

/-- Every binding. -/
def all : List Binding := [post, redirect]

/-- The URI of a binding. -/
def uri : Binding → String
  | post => "urn:oasis:names:tc:SAML:2.0:bindings:HTTP-POST"
  | redirect => "urn:oasis:names:tc:SAML:2.0:bindings:HTTP-Redirect"

/-- The binding of a URI. -/
def ofUri? (u : String) : Option Binding := all.find? fun b => b.uri == u

/-- The binding that is meant when none is named. -/
def default : Binding := post

theorem ofUri?_uri (b : Binding) : ofUri? b.uri = some b := by
  cases b <;> decide +kernel

end Binding

/-! ## Requests on the wire -/

/-- The most bytes that a redirected request may have. -/
def maxInflated : Nat := 262144

/-- The bytes of a posted request. -/
def decodePosted (text : String) : Except Fault Bytes :=
  match Base64.decodeText? text with
  | some bytes => .ok bytes
  | none => .error (.invalidRequest "base64:")

/-- The bytes of a redirected request, of which there may be `maxInflated`. -/
def decodeRedirected (text : String) : Except Fault Bytes :=
  match decodePosted text with
  | .error e => .error e
  | .ok compressed =>
    match Deflate.inflate maxInflated compressed with
    | .ok bytes => .ok bytes
    | .error .damaged => .error (.invalidRequest "inflate:")
    | .error .tooLarge => .error (.invalidRequest "inflated request is too large")

/-- The bytes of a request that came by a binding. -/
def Binding.decode : Binding → String → Except Fault Bytes
  | post => decodePosted
  | redirect => decodeRedirected

/-- The text of a request to be redirected, with the given compression. -/
def encodeRedirectedWith (compress : Bytes → Bytes) (request : String) : String :=
  Base64.encode (compress (Bytes.ofString request))

end WebSso
