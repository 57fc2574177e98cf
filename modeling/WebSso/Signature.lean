import WebSso.Codec.Base64
import WebSso.Crypto.Algorithm
import WebSso.Xml.Written

/-!
# Signatures in documents

A signature is an element of the document that it signs.  It names its algorithms, carries the
digest of the signed element and the certificate of the key it was made with, and its value signs
all of this.

## What is here

* `signatureElement`, a signature with or without its value;
* `insertSignature`, its place in the element it signs: right behind the issuer.
-/

set_option autoImplicit false
namespace WebSso

/-- The transform that leaves the signature out of what it signs. -/
def envelopedTransform : String := "http://www.w3.org/2000/09/xmldsig#enveloped-signature"

namespace Signature

/-- A part that names an algorithm. -/
def algorithmElement (name uri : String) : Element :=
  Element.named (ds name) |>.attr "Algorithm" uri

/-- How the signed element becomes bytes.  An inclusive method is what is meant when none is named
behind the first transform, so that it is not. -/
def transforms (method : Canonicalization) : List Element :=
  algorithmElement "Transform" envelopedTransform
    :: if method.isExclusive then [algorithmElement "Transform" method.uri] else []

/-- The element that is signed, by its ID, and its digest. -/
def referenceElement (id digest : String) (options : SignatureOptions) : Element :=
  Element.named (ds "Reference")
    |>.attr "URI" ("#" ++ id)
    |>.addChildren
      [Element.named (ds "Transforms") |>.addChildren (transforms options.canonicalization),
        algorithmElement "DigestMethod" options.digest.uri,
        Element.named (ds "DigestValue") |>.addText digest]

/-- What the value of a signature signs. -/
def signedInfoElement (id digest : String) (options : SignatureOptions) : Element :=
  Element.named (ds "SignedInfo")
    |>.addChildren
      [algorithmElement "CanonicalizationMethod" options.canonicalization.uri,
        algorithmElement "SignatureMethod" options.signature.uri,
        referenceElement id digest options]

/-- The certificate of the key that a signature is made with. -/
def keyInfoElement (certificate : Bytes) : Element :=
  Element.named (ds "KeyInfo")
    |>.addChild
      (Element.named (ds "X509Data")
        |>.addChild
          (Element.named (ds "X509Certificate") |>.addText (Base64.encode certificate)))

/-- The value of a signature, which has no content before it is known. -/
def valueElement : Option String → Element
  | none => Element.named (ds "SignatureValue")
  | some value => Element.named (ds "SignatureValue") |>.addText value

end Signature

/-- The signature of the element with an ID, by the digest of that element. -/
def signatureElement (id digest : String) (certificate : Bytes) (options : SignatureOptions)
    (value : Option String) : Element :=
  Element.named (ds "Signature")
    |>.declare (some "ds") signatureNamespace
    |>.addChildren
      [Signature.signedInfoElement id digest options, Signature.valueElement value,
        Signature.keyInfoElement certificate]

/-- Content with an element behind the first one of a local name, if there is one. -/
def Content.insertBehind? (localName : String) (new : Element) : Content → Option Content
  | .done => none
  | .text run rest => (rest.insertBehind? localName new).map (.text run)
  | .element tag inner rest =>
    if tag.name.localName = localName then
      some (.element tag inner (.element new.tag new.content rest))
    else (rest.insertBehind? localName new).map (.element tag inner)

/-- An element with a signature right behind its issuer, or in front if it has none. -/
def insertSignature (signature element : Element) : Element :=
  { element with
    content := (element.content.insertBehind? "Issuer" signature).getD
      (Content.ofElement signature ++ element.content) }

end WebSso
