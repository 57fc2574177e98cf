import WebSso.Crypto.DenyList
import WebSso.Fault
import WebSso.Signature
import WebSso.Text.Blank
import WebSso.Xml.Node

/-!
# Signatures as they are read

A signature is read before anything is computed: which algorithms it names, which element it refers
to, and with which certificate it was made.  One that names an algorithm that is denied or not
known, or that refers to another element, is refused then.

The bytes that the digest was computed of are said by the transforms.  That the signature itself is
left out has to be among them; if none of them says how the rest becomes bytes, it is by the
inclusive method without comments.

## What is here

* `SignedInfo`, what the value of a signature signs, and `SignedInfo.read`;
* `SignedInfo.options` and `SignedInfo.referenceMethod`, the algorithms that it names;
* `SignatureReading` and `readSignature`, all that is read of the signature of an element.
-/

set_option autoImplicit false
namespace WebSso

/-- The namespace of what the exclusive methods are told. -/
def exclusiveNamespace : String := "http://www.w3.org/2001/10/xml-exc-c14n#"

/-- What the value of a signature signs. -/
structure SignedInfo where
  /-- The URI of how it becomes bytes. -/
  canonicalization : String
  /-- The qualifiers that are written even if they are not used then. -/
  qualifiers : List String
  /-- The URI of how it is signed. -/
  signature : String
  /-- What is referred to. -/
  reference : String
  /-- The URIs of what is done with it until it is bytes, first to last. -/
  transforms : List String
  /-- The qualifiers that are written even if they are not used then. -/
  referenceQualifiers : List String
  /-- The URI of how the digest is computed. -/
  digest : String
  /-- The digest. -/
  digestValue : String
  deriving DecidableEq

namespace SignedInfo

/-! ## Reading -/

/-- The algorithm that a part names. -/
def algorithm (what : String) (part : Option Node) : Except Fault String :=
  match part.bind (·.attribute? "Algorithm") with
  | some uri => .ok uri
  | none => .error (.malformedXml (what ++ " has no Algorithm"))

/-- The qualifiers that a method is told to write. -/
def listedQualifiers (method : Node) : List String :=
  let list := method.first? exclusiveNamespace "InclusiveNamespaces"
  ((list.bind (·.attribute? "PrefixList")).map words).getD []

/-- The only reference. -/
def onlyReference (n : Node) : Except Fault Node :=
  match n.named signatureNamespace "Reference" with
  | [reference] => .ok reference
  | _ => .error (.malformedXml "SignedInfo must hold exactly one Reference")

/-- The transforms of a reference, if it has any. -/
def listedTransforms (reference : Node) : List Node :=
  match reference.first? signatureNamespace "Transforms" with
  | some list => list.named signatureNamespace "Transform"
  | none => []

/-- The digest that a reference carries. -/
def carriedDigest (reference : Node) : Except Fault String :=
  match reference.first? signatureNamespace "DigestValue" with
  | some value => .ok value.text
  | none => .error (.malformedXml "Reference has no DigestValue")

/-- What an element says that is signed. -/
def read (n : Node) : Except Fault SignedInfo := do
  let method := n.first? signatureNamespace "CanonicalizationMethod"
  let canonicalization ← algorithm "CanonicalizationMethod" method
  let signature ←
    algorithm "SignatureMethod" (n.first? signatureNamespace "SignatureMethod")
  let reference ← onlyReference n
  let transforms ← (listedTransforms reference).mapM fun t => algorithm "Transform" (some t)
  let digest ← algorithm "DigestMethod" (reference.first? signatureNamespace "DigestMethod")
  let digestValue ← carriedDigest reference
  return {
    canonicalization
    qualifiers := (method.map listedQualifiers).getD []
    signature
    reference := (reference.attribute? "URI").getD ""
    transforms
    referenceQualifiers := (listedTransforms reference).flatMap listedQualifiers
    digest
    digestValue }

/-- What the value of a signature signs. -/
def ofSignature (signature : Node) : Except Fault SignedInfo :=
  match signature.first? signatureNamespace "SignedInfo" with
  | some info => read info
  | none => .error (.malformedXml "signature has no SignedInfo")

/-! ## Algorithms -/

variable (i : SignedInfo)

/-- The URIs of all algorithms, in the order in which they are looked up in a deny list. -/
def uris : List String := [i.canonicalization, i.signature, i.digest] ++ i.transforms

/-- The algorithm of a URI, which has to be a known one. -/
def supported {α : Type} (ofUri? : String → Option α) (uri : String) : Except Fault α :=
  match ofUri? uri with
  | some a => .ok a
  | none => .error (.unsupportedAlgorithm uri)

/-- The algorithms that the signature was made with. -/
def options : Except Fault SignatureOptions := do
  let canonicalization ← supported Canonicalization.ofUri? i.canonicalization
  let signature ← supported SignatureAlgorithm.ofUri? i.signature
  let digest ← supported DigestAlgorithm.ofUri? i.digest
  return ⟨canonicalization, signature, digest⟩

/-- What some transforms say. -/
structure Transformed where
  /-- Whether the signature is left out. -/
  enveloped : Bool
  /-- The last method that was named. -/
  method : Option Canonicalization
  deriving DecidableEq

/-- What is said with one more transform. -/
def Transformed.add (t : Transformed) (uri : String) : Except Fault Transformed :=
  if uri = envelopedTransform then .ok { t with enveloped := true }
  else (supported Canonicalization.ofUri? uri).map fun method => { t with method := some method }

/-- How what is referred to becomes bytes. -/
def referenceMethod : Except Fault Canonicalization := do
  let said ← i.transforms.foldlM Transformed.add ⟨false, none⟩
  if said.enveloped then return said.method.getD .inclusive
  else .error (.unsupportedAlgorithm "signature is not enveloped")

/-- The ID that is referred to, if the reference is to an ID. -/
def referenceId? : Option String :=
  match i.reference.toList with
  | '#' :: id => some (String.ofList id)
  | _ => none

end SignedInfo

/-! ## The signature of an element -/

/-- What is read of a signature. -/
structure SignatureReading where
  /-- What its value signs. -/
  info : SignedInfo
  /-- The algorithms that it was made with. -/
  options : SignatureOptions
  /-- How the signed element becomes bytes. -/
  referenceMethod : Canonicalization
  /-- Its value. -/
  value : Bytes
  /-- The certificate of the key that it was made with, if it says so. -/
  certificate : Option Bytes
  deriving DecidableEq

namespace SignatureReading

/-- The only signature that an element carries itself. -/
def onlySignature (id : String) (n : Node) : Except Fault Node :=
  match n.named signatureNamespace "Signature" with
  | [] => .error (.missingSignature id)
  | [signature] => .ok signature
  | _ => .error (.malformedXml (id ++ " carries several signatures"))

/-- No algorithm may be denied. -/
def allowed (denied : DenyList) (info : SignedInfo) : Except Fault Unit :=
  match info.uris.find? denied.denies with
  | some uri => .error (.deniedAlgorithm uri)
  | none => .ok ()

/-- The reference has to be to an element. -/
def pointsAt (id : String) (info : SignedInfo) : Except Fault Unit :=
  if info.reference = "#" ++ id then .ok ()
  else .error (.signatureMismatch ("reference " ++ info.reference ++ " does not point at " ++ id))

/-- The bytes of a part that is written in base64. -/
def bytes (what : String) (part : Node) : Except Fault Bytes :=
  match Base64.decodeText? part.text with
  | some bytes => .ok bytes
  | none => .error (.malformedXml (what ++ ":"))

/-- The value of a signature. -/
def readValue (signature : Node) : Except Fault Bytes :=
  match signature.first? signatureNamespace "SignatureValue" with
  | some value => bytes "SignatureValue" value
  | none => .error (.malformedXml "signature has no SignatureValue")

/-- The certificate in a signature. -/
def readCertificate (signature : Node) : Except Fault (Option Bytes) :=
  let part := do
    let keyInfo ← signature.first? signatureNamespace "KeyInfo"
    let data ← keyInfo.first? signatureNamespace "X509Data"
    data.first? signatureNamespace "X509Certificate"
  match part with
  | some certificate => (bytes "X509Certificate" certificate).map some
  | none => .ok none

end SignatureReading

open SignatureReading in
/-- What is read of the signature of an element with an ID, before anything is computed. -/
def readSignature (denied : DenyList) (id : String) (n : Node) :
    Except Fault SignatureReading := do
  let signature ← onlySignature id n
  let info ← SignedInfo.ofSignature signature
  allowed denied info
  let options ← info.options
  pointsAt id info
  let referenceMethod ← info.referenceMethod
  let value ← readValue signature
  let certificate ← readCertificate signature
  return { info, options, referenceMethod, value, certificate }

end WebSso
