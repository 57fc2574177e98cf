import WebSso.Crypto.Algorithm
import WebSso.Event
import WebSso.Text.Described

/-!
# Denied algorithms

## What is here

* `DenyList`, the URIs of algorithms that are neither used nor accepted, and `DenyList.default`;
* `DenyList.firstDenied?`, the first of some options that is denied.
-/

set_option autoImplicit false
namespace WebSso

/-- The URIs of some options, in the order in which they are looked up in a deny list. -/
def SignatureOptions.uris (options : SignatureOptions) : List String :=
  [options.signature.uri, options.digest.uri, options.canonicalization.uri]

/-- The algorithms that are neither used nor accepted. -/
structure DenyList where
  /-- Their URIs. -/
  uris : List String
  deriving DecidableEq

namespace DenyList

/-- What is denied unless something else is said: the algorithms built on SHA-1. -/
def default : DenyList := ⟨[SignatureAlgorithm.rsaSha1.uri, DigestAlgorithm.sha1.uri]⟩

/-- Whether an algorithm is denied. -/
def denies (d : DenyList) (uri : String) : Bool := d.uris.contains uri

/-- The first of some options that is denied. -/
def firstDenied? (d : DenyList) (options : SignatureOptions) : Option String :=
  options.uris.find? d.denies

/-- The report that an algorithm was not used. -/
def refusedEvent (uri : String) : Event :=
  .warn "refusing denied algorithm" [("algorithm", .text uri)]

/-- How a list is shown. -/
def describe (d : DenyList) : String :=
  describeRecord "SignatureEngine" [("denied", describeSet (d.uris.eraseDups.map quoted))]

end DenyList

end WebSso
