import WebSso.Proofs.Codec.Base64
import WebSso.Proofs.Xml.Node
import WebSso.Signature.Reading

/-!
# Signatures are read as they were made

Whoever made a signature and whoever reads it have to agree on how the signed element becomes bytes,
or the digests differ.  The one names no method behind the enveloped transform if the method is
inclusive, and the other takes a method that is not named for the inclusive one without comments.
So they agree unless the method is the inclusive one with comments: that one is not named, and is
taken for another.

Everything else is read as it was written: the ID, the digest, the certificate, and the algorithms
by their URIs.

## What is here

* `Signature.inside`, a part of a signature where it stands, and what is found in each part;
* `SignedInfo.stated` and `ofSignature_signatureElement`, what a signature says of itself;
* `Canonicalization.understood`, the method that is read where another may have been meant;
* `signatureElement_read_back`, all that is recovered from a signature, and
  `referenceMethod_inclusiveWithComments`, where it is not what was meant.
-/

set_option autoImplicit false
namespace WebSso

/-! ## What is found in a signature -/

namespace Signature

/-- The declaration that a signature begins with. -/
def declaration : NamespaceDecl := ⟨some "ds", signatureNamespace⟩

/-- A part of a signature, where it stands. -/
def inside (around : List NamespaceDecl) (part : Element) : Node := ⟨declaration :: around, part⟩

section Parts

variable (around : List NamespaceDecl) (id digest : String) (certificate : Bytes)
  (options : SignatureOptions) (value : Option String)

theorem first?_signedInfo :
    (Node.mk around (signatureElement id digest certificate options value)).first?
        signatureNamespace "SignedInfo"
      = some (inside around (signedInfoElement id digest options)) := by
  cases value <;> rfl

theorem first?_value :
    (Node.mk around (signatureElement id digest certificate options value)).first?
        signatureNamespace "SignatureValue"
      = some (inside around (valueElement value)) := by
  cases value <;> rfl

theorem first?_keyInfo :
    (Node.mk around (signatureElement id digest certificate options value)).first?
        signatureNamespace "KeyInfo"
      = some (inside around (keyInfoElement certificate)) := by
  cases value <;> rfl

theorem algorithm_inside (what name uri : String) :
    SignedInfo.algorithm what (some (inside around (algorithmElement name uri))) = .ok uri :=
  rfl

theorem first?_canonicalizationMethod :
    (inside around (signedInfoElement id digest options)).first? signatureNamespace
        "CanonicalizationMethod"
      = some (inside around
          (algorithmElement "CanonicalizationMethod" options.canonicalization.uri)) :=
  rfl

theorem first?_signatureMethod :
    (inside around (signedInfoElement id digest options)).first? signatureNamespace
        "SignatureMethod"
      = some (inside around (algorithmElement "SignatureMethod" options.signature.uri)) :=
  rfl

theorem onlyReference_inside :
    SignedInfo.onlyReference (inside around (signedInfoElement id digest options))
      = .ok (inside around (referenceElement id digest options)) :=
  rfl

theorem attribute?_reference :
    (inside around (referenceElement id digest options)).attribute? "URI" = some ("#" ++ id) :=
  rfl

theorem first?_digestMethod :
    (inside around (referenceElement id digest options)).first? signatureNamespace "DigestMethod"
      = some (inside around (algorithmElement "DigestMethod" options.digest.uri)) :=
  rfl

theorem carriedDigest_inside :
    SignedInfo.carriedDigest (inside around (referenceElement id digest options)) = .ok digest :=
  congrArg Except.ok (Element.fullText_named_addText (ds "DigestValue") digest)

theorem listedTransforms_inside :
    SignedInfo.listedTransforms (inside around (referenceElement id digest options))
      = (transforms options.canonicalization).map (inside around) := by
  obtain ⟨method, signature, digest⟩ := options
  cases method <;> rfl

end Parts
end Signature

/-! ## What a signature says of itself -/

namespace SignedInfo

/-- What the signature of an element says, by the ID and the digest of the element and the
algorithms. -/
def stated (id digest : String) (options : SignatureOptions) : SignedInfo where
  canonicalization := options.canonicalization.uri
  qualifiers := []
  signature := options.signature.uri
  reference := "#" ++ id
  transforms := envelopedTransform
    :: if options.canonicalization.isExclusive then [options.canonicalization.uri] else []
  referenceQualifiers := []
  digest := options.digest.uri
  digestValue := digest

variable (id digest : String) (options : SignatureOptions)

theorem transforms_read (around : List NamespaceDecl) :
    ((Signature.transforms options.canonicalization).map (Signature.inside around)).mapM
        (fun t => algorithm "Transform" (some t))
      = .ok (stated id digest options).transforms := by
  obtain ⟨method, signature, digest⟩ := options
  cases method <;> rfl

theorem qualifiers_read (around : List NamespaceDecl) (method : Canonicalization) :
    ((Signature.transforms method).map (Signature.inside around)).flatMap listedQualifiers
      = [] := by
  cases method <;> rfl

theorem read_signedInfoElement (around : List NamespaceDecl) :
    read (Signature.inside around (Signature.signedInfoElement id digest options))
      = .ok (stated id digest options) := by
  rw [read, Signature.first?_canonicalizationMethod, Signature.first?_signatureMethod,
    Signature.algorithm_inside, Signature.algorithm_inside, Signature.onlyReference_inside]
  dsimp only [bind, Except.bind]
  rw [Signature.listedTransforms_inside, transforms_read id digest, qualifiers_read,
    Signature.first?_digestMethod, Signature.algorithm_inside, Signature.carriedDigest_inside,
    Signature.attribute?_reference]
  rfl

/-- **A signature says what it was made with**, wherever it stands and whatever its value is. -/
theorem ofSignature_signatureElement (around : List NamespaceDecl) (certificate : Bytes)
    (value : Option String) :
    ofSignature ⟨around, signatureElement id digest certificate options value⟩
      = .ok (stated id digest options) := by
  rw [ofSignature, Signature.first?_signedInfo]
  exact read_signedInfoElement id digest options around

theorem referenceId?_stated : (stated id digest options).referenceId? = some id := by
  have htext : (stated id digest options).reference.toList = '#' :: id.toList := by
    simp [stated]
  rw [referenceId?, htext]
  simp

/-- Every algorithm is known by its URI. -/
theorem options_stated : (stated id digest options).options = .ok options := by
  simp only [SignedInfo.options, stated, supported, Canonicalization.ofUri?_uri,
    SignatureAlgorithm.ofUri?_uri, DigestAlgorithm.ofUri?_uri]
  rfl

end SignedInfo

/-! ## The method that is read -/

namespace Canonicalization

/-- The method that is read where another one is meant: an inclusive one is taken to be without
comments. -/
def understood : Canonicalization → Canonicalization
  | inclusive | inclusiveWithComments => inclusive
  | method => method

theorem understood_eq_self_iff (method : Canonicalization) :
    method.understood = method ↔ method ≠ inclusiveWithComments := by
  cases method <;> decide

end Canonicalization

namespace SignedInfo

theorem add_envelopedTransform (t : Transformed) :
    t.add envelopedTransform = .ok { t with enveloped := true } :=
  if_pos rfl

/-- A method is not taken for the transform that leaves the signature out. -/
theorem add_uri (t : Transformed) (method : Canonicalization) :
    t.add method.uri = .ok { t with method := some method } := by
  have hne : method.uri ≠ envelopedTransform := by cases method <;> decide +kernel
  rw [Transformed.add, if_neg hne, supported, method.ofUri?_uri]
  rfl

theorem referenceMethod_stated (id digest : String) (options : SignatureOptions) :
    (stated id digest options).referenceMethod = .ok options.canonicalization.understood := by
  obtain ⟨method, signature, digest⟩ := options
  rw [referenceMethod, stated]
  cases method <;>
    simp only [Canonicalization.isExclusive, if_true, if_false, List.foldlM_cons, List.foldlM_nil,
      add_envelopedTransform, add_uri, Bool.false_eq_true] <;>
    rfl

end SignedInfo

/-! ## All that is read -/

theorem SignatureReading.bytes_encode (what : String) (around : List NamespaceDecl) (name : QName)
    (data : Bytes) :
    bytes what ⟨around, (Element.named name).addText (Base64.encode data)⟩ = .ok data := by
  rw [bytes, Node.text, Element.fullText_named_addText, Base64.decodeText?_encode]

theorem SignatureReading.readCertificate_signatureElement (around : List NamespaceDecl)
    (id digest : String) (certificate : Bytes) (options : SignatureOptions)
    (value : Option String) :
    readCertificate ⟨around, signatureElement id digest certificate options value⟩
      = .ok (some certificate) := by
  have hread := bytes_encode "X509Certificate" (Signature.declaration :: around)
    (ds "X509Certificate") certificate
  rw [readCertificate, Signature.first?_keyInfo]
  exact congrArg (Except.map some) hread

/-- **What a signature is read as**, wherever it stands: the ID it refers to, the digest, the
certificate and the algorithms are those it was made with.  The method by which the signed element
becomes bytes is the one that was meant unless that is the inclusive one with comments, which is
taken for the one without. -/
theorem signatureElement_read_back (around : List NamespaceDecl) (id digest : String)
    (certificate : Bytes) (options : SignatureOptions) (value : Option String) :
    ∃ info, SignedInfo.ofSignature
        ⟨around, signatureElement id digest certificate options value⟩ = .ok info ∧
      info.referenceId? = some id ∧ info.digestValue = digest ∧
      SignatureReading.readCertificate
        ⟨around, signatureElement id digest certificate options value⟩ = .ok (some certificate) ∧
      info.options = .ok options ∧ info.qualifiers = [] ∧ info.referenceQualifiers = [] ∧
      info.referenceMethod = .ok options.canonicalization.understood ∧
      (options.canonicalization.understood = options.canonicalization ↔
        options.canonicalization ≠ .inclusiveWithComments) :=
  ⟨SignedInfo.stated id digest options,
    SignedInfo.ofSignature_signatureElement id digest options around certificate value,
    SignedInfo.referenceId?_stated id digest options, rfl,
    SignatureReading.readCertificate_signatureElement around id digest certificate options value,
    SignedInfo.options_stated id digest options, rfl, rfl,
    SignedInfo.referenceMethod_stated id digest options,
    options.canonicalization.understood_eq_self_iff⟩

/-- A signature by the inclusive method with comments is read as one without. -/
theorem referenceMethod_inclusiveWithComments :
    ∃ info, SignedInfo.ofSignature
        ⟨[], signatureElement "_a" "AAAA" [0, 255, 16]
          ⟨.inclusiveWithComments, .rsaSha256, .sha256⟩ none⟩ = .ok info ∧
      info.options = .ok ⟨.inclusiveWithComments, .rsaSha256, .sha256⟩ ∧
      info.referenceMethod = .ok .inclusive :=
  ⟨_, SignedInfo.ofSignature_signatureElement "_a" "AAAA" _ [] _ none,
    SignedInfo.options_stated "_a" "AAAA" _, SignedInfo.referenceMethod_stated "_a" "AAAA" _⟩

end WebSso
