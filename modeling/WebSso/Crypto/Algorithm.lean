import WebSso.Vocabulary

/-!
# Algorithms of XML signatures

A signature names the algorithms it was made with by their URIs: how the signed element is turned
into bytes, how the digest of these bytes is computed, and how it is signed.

## What is here

* `Canonicalization`, `SignatureAlgorithm` and `DigestAlgorithm`, each with `uri` and `ofUri?`;
* `SignatureOptions`, one of each, and the options a signer uses by default.
-/

set_option autoImplicit false
namespace WebSso

/-! ## Canonicalization -/

/-- The methods of turning an element into bytes.  The exclusive ones write only the namespaces that
the element uses. -/
inductive Canonicalization where
  | exclusive
  | exclusiveWithComments
  | inclusive
  | inclusiveWithComments
  deriving DecidableEq

namespace Canonicalization

/-- Every method, in the order in which a URI is looked up. -/
def all : List Canonicalization :=
  [exclusive, exclusiveWithComments, inclusive, inclusiveWithComments]

/-- The URI of a method. -/
def uri : Canonicalization → String
  | exclusive => "http://www.w3.org/2001/10/xml-exc-c14n#"
  | exclusiveWithComments => "http://www.w3.org/2001/10/xml-exc-c14n#WithComments"
  | inclusive => "http://www.w3.org/TR/2001/REC-xml-c14n-20010315"
  | inclusiveWithComments => "http://www.w3.org/TR/2001/REC-xml-c14n-20010315#WithComments"

/-- The method of a URI. -/
def ofUri? (u : String) : Option Canonicalization := all.find? fun m => m.uri == u

/-- Whether a method is exclusive. -/
def isExclusive : Canonicalization → Bool
  | exclusive | exclusiveWithComments => true
  | inclusive | inclusiveWithComments => false

theorem ofUri?_uri (m : Canonicalization) : ofUri? m.uri = some m := by
  cases m <;> decide +kernel

end Canonicalization

/-! ## Signatures -/

/-- The algorithms that sign a digest. -/
inductive SignatureAlgorithm where
  | rsaSha1
  | rsaSha256
  | rsaSha384
  | rsaSha512
  deriving DecidableEq

namespace SignatureAlgorithm

/-- Every algorithm, in the order in which a URI is looked up. -/
def all : List SignatureAlgorithm := [rsaSha1, rsaSha256, rsaSha384, rsaSha512]

/-- The URI of an algorithm. -/
def uri : SignatureAlgorithm → String
  | rsaSha1 => "http://www.w3.org/2000/09/xmldsig#rsa-sha1"
  | rsaSha256 => "http://www.w3.org/2001/04/xmldsig-more#rsa-sha256"
  | rsaSha384 => "http://www.w3.org/2001/04/xmldsig-more#rsa-sha384"
  | rsaSha512 => "http://www.w3.org/2001/04/xmldsig-more#rsa-sha512"

/-- The algorithm of a URI. -/
def ofUri? (u : String) : Option SignatureAlgorithm := all.find? fun a => a.uri == u

theorem ofUri?_uri (a : SignatureAlgorithm) : ofUri? a.uri = some a := by
  cases a <;> decide +kernel

end SignatureAlgorithm

/-! ## Digests -/

/-- The algorithms that compute a digest. -/
inductive DigestAlgorithm where
  | sha1
  | sha256
  | sha384
  | sha512
  deriving DecidableEq

namespace DigestAlgorithm

/-- Every algorithm, in the order in which a URI is looked up. -/
def all : List DigestAlgorithm := [sha1, sha256, sha384, sha512]

/-- The URI of an algorithm. -/
def uri : DigestAlgorithm → String
  | sha1 => "http://www.w3.org/2000/09/xmldsig#sha1"
  | sha256 => "http://www.w3.org/2001/04/xmlenc#sha256"
  | sha384 => "http://www.w3.org/2001/04/xmldsig-more#sha384"
  | sha512 => "http://www.w3.org/2001/04/xmlenc#sha512"

/-- The algorithm of a URI. -/
def ofUri? (u : String) : Option DigestAlgorithm := all.find? fun a => a.uri == u

theorem ofUri?_uri (a : DigestAlgorithm) : ofUri? a.uri = some a := by
  cases a <;> decide +kernel

end DigestAlgorithm

/-! ## Options -/

/-- The algorithms a signature is made with. -/
structure SignatureOptions where
  /-- How the signed element and the signed part of the signature are turned into bytes. -/
  canonicalization : Canonicalization
  /-- How the digest is signed. -/
  signature : SignatureAlgorithm
  /-- How the digest is computed. -/
  digest : DigestAlgorithm
  deriving DecidableEq

/-- The options of a signer that was told nothing else. -/
def SignatureOptions.default : SignatureOptions := ⟨.exclusive, .rsaSha256, .sha256⟩

end WebSso
