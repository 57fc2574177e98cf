import WebSso.Crypto.SigningKey
import WebSso.Crypto.DenyList
import WebSso.Signature

/-!
# Signing documents

## What is here

* `Signer`, the part of signing that works on bytes: digests and signature values of elements;
* `SignedDocument`, an element with its signature;
* `sign`, which refuses denied algorithms first, then elements that cannot be signed.
-/

set_option autoImplicit false
namespace WebSso

/-- What turns elements into bytes and computes on them, with the private key in hand. -/
structure Signer where
  /-- The digest of an element. -/
  digest : DigestAlgorithm → Canonicalization → Element → Except Fault Bytes
  /-- The signature value of an element whose signature lacks only that. -/
  value : SignatureAlgorithm → Canonicalization → Element → Except Fault Bytes

/-- A signer that cannot compute anything. -/
def Signer.unavailable : Signer := ⟨fun _ _ _ => .error .crypto, fun _ _ _ => .error .crypto⟩

/-- An element with its signature. -/
structure SignedDocument where
  /-- The element, its signature included. -/
  element : Element
  /-- The ID that the signature refers to. -/
  referenceId : String
  /-- The value of the signature. -/
  signatureValue : String
  /-- The certificate of the key it was made with. -/
  certificate : Bytes
  /-- The algorithms it was made with. -/
  options : SignatureOptions
  deriving DecidableEq

namespace SignedDocument

/-- The text of the element. -/
def toXml (d : SignedDocument) : String := d.element.toXml

/-- The text of the element as a document. -/
def toDocument (d : SignedDocument) : String := d.element.toDocument

/-- The report that an element was signed. -/
def event (d : SignedDocument) : Event :=
  .debug "signed element"
    [("reference", .text d.referenceId), ("algorithm", .text d.options.signature.uri)]

end SignedDocument

/-- The ID by which an element can be signed: it needs one, and no signature of its own. -/
def Element.signableId (e : Element) : Except Fault String :=
  match e.attribute? "ID" with
  | none => .error (.malformedXml "element to sign has no ID")
  | some id =>
    if e.children.any fun child => child.name.localName == "Signature" then
      .error (.malformedXml (id ++ " is already signed"))
    else .ok id

/-- An element with its signature, made with the key of a certificate. -/
def sign (denied : DenyList) (signer : Signer) (certificate : Bytes) (options : SignatureOptions)
    (element : Element) : Except Fault SignedDocument :=
  match denied.firstDenied? options with
  | some uri => .error (.deniedAlgorithm uri)
  | none => do
    let id ← element.signableId
    let digest ← signer.digest options.digest options.canonicalization element
    let signature := signatureElement id (Base64.encode digest) certificate options
    let staged := insertSignature (signature none) element
    let value ← signer.value options.signature options.canonicalization staged
    let signatureValue := Base64.encode value
    return {
      element := insertSignature (signature (some signatureValue)) element
      referenceId := id
      signatureValue
      certificate
      options }

end WebSso
