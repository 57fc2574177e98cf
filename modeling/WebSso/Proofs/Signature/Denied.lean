import WebSso.Proofs.Signature.Place

/-!
# What a signature names and what is denied

An algorithm that is denied is neither used nor accepted.  Signing looks up the three algorithms it
is asked to use; reading looks up all that the signature names, and these are the same three and one
more: the transform that leaves the signature out of what is signed, which every signature names and
signing never looks up.  So a list that denies this transform lets an element be signed and refuses
the signature, and no other list does that.

## What is here

* `Element.algorithms`, all that an element names as its algorithm, itself and inside, and
  `mem_algorithms_signatureElement`, by which reading looks up all that a signature names;
* `SignedInfo.find?_denies_stated`, what becomes of the look-up;
* `SignedBy.readSignature`, what is read of a signed document;
* `DenyList.allows_own_signatures_iff`, when all that is named is allowed, and
  `DenyList.denies_own_signature`, where it is not.
-/

set_option autoImplicit false
namespace WebSso

/-! ## The algorithms that are named -/

/-- What a tag names as its algorithm. -/
def Tag.algorithms (tag : Tag) : List String :=
  (tag.attributes.filter fun a => a.name == .plain "Algorithm").map (·.value)

/-- What the elements name as their algorithms, themselves and inside. -/
def Content.algorithms : Content → List String
  | done => []
  | text _ rest => rest.algorithms
  | element tag inner rest => tag.algorithms ++ inner.algorithms ++ rest.algorithms

/-- What an element names as its algorithm, itself and inside. -/
def Element.algorithms (e : Element) : List String := e.tag.algorithms ++ e.content.algorithms

section

variable (id digest : String) (certificate : Bytes) (options : SignatureOptions)
  (value : Option String)

theorem algorithms_signatureElement :
    (signatureElement id digest certificate options value).algorithms
      = [(SignedInfo.stated id digest options).canonicalization,
          (SignedInfo.stated id digest options).signature]
        ++ (SignedInfo.stated id digest options).transforms
        ++ [(SignedInfo.stated id digest options).digest] := by
  obtain ⟨method, signature, digest⟩ := options
  cases method <;> cases value <;> rfl

/-- Reading looks up all that a signature names. -/
theorem mem_algorithms_signatureElement {uri : String} :
    uri ∈ (signatureElement id digest certificate options value).algorithms ↔
      uri ∈ (SignedInfo.stated id digest options).uris := by
  rw [algorithms_signatureElement, SignedInfo.uris]
  simp only [List.mem_append, List.mem_cons, List.not_mem_nil, or_false]
  grind

/-- A signature names what it was made with, and that it is left out itself. -/
theorem mem_uris_stated {uri : String} :
    uri ∈ (SignedInfo.stated id digest options).uris ↔
      uri ∈ options.uris ∨ uri = envelopedTransform := by
  obtain ⟨method, signature, digest⟩ := options
  cases h : method.isExclusive <;>
    simp only [SignedInfo.uris, SignedInfo.stated, SignatureOptions.uris, h, if_true, if_false,
      Bool.false_eq_true, List.mem_append, List.mem_cons, List.not_mem_nil, or_false] <;>
    grind

end

/-! ## What is denied -/

namespace DenyList
variable {denied : DenyList} {options : SignatureOptions}

/-- Nothing that was asked for is denied if none is found. -/
theorem denies_eq_false_of_firstDenied? (h : denied.firstDenied? options = none) {uri : String}
    (huri : uri ∈ options.uris) : denied.denies uri = false := by
  simpa using List.find?_eq_none.mp h uri huri

/-- All that a signature names is allowed just if the enveloped transform is. -/
theorem forall_uris_stated_iff (h : denied.firstDenied? options = none) (id digest : String) :
    (∀ uri ∈ (SignedInfo.stated id digest options).uris, denied.denies uri = false) ↔
      denied.denies envelopedTransform = false := by
  constructor
  · intro hall
    exact hall _ ((mem_uris_stated id digest options).mpr (.inr rfl))
  · intro henveloped uri huri
    rcases (mem_uris_stated id digest options).mp huri with hasked | rfl
    · exact denies_eq_false_of_firstDenied? h hasked
    · exact henveloped

/-- What becomes of the look-up of all that a signature names. -/
theorem allowed_stated (h : denied.firstDenied? options = none) (id digest : String) :
    SignatureReading.allowed denied (SignedInfo.stated id digest options)
      = if denied.denies envelopedTransform then .error (.deniedAlgorithm envelopedTransform)
        else .ok () := by
  rw [SignatureReading.allowed]
  split
  · next uri hfound =>
    have hdenied : denied.denies uri = true := List.find?_some hfound
    obtain hasked | rfl := (mem_uris_stated id digest options).mp (List.mem_of_find?_eq_some hfound)
    · rw [denies_eq_false_of_firstDenied? h hasked] at hdenied
      cases hdenied
    · rw [if_pos hdenied]
  · next hnone =>
    have hall := (forall_uris_stated_iff h id digest).mp
      fun uri huri => by simpa using List.find?_eq_none.mp hnone uri huri
    rw [hall, if_neg Bool.false_ne_true]

end DenyList

/-! ## Signed documents -/

/-- What is read of the signature of an element, if nothing that it names is denied. -/
def SignatureReading.stated (id : String) (digest value certificate : Bytes)
    (options : SignatureOptions) : SignatureReading where
  info := SignedInfo.stated id (Base64.encode digest) options
  options := options
  referenceMethod := options.canonicalization.understood
  value := value
  certificate := some certificate

theorem SignatureReading.readValue_signatureElement (around : List NamespaceDecl)
    (id digest : String) (value certificate : Bytes) (options : SignatureOptions) :
    readValue ⟨around,
        signatureElement id digest certificate options (some (Base64.encode value))⟩
      = .ok value := by
  rw [readValue, Signature.first?_value]
  exact bytes_encode "SignatureValue" (Signature.declaration :: around) (ds "SignatureValue") value

/-- **A signed document is read as it was made**, or refused for the enveloped transform. -/
theorem SignedBy.readSignature {denied : DenyList} {signer : Signer} {certificate : Bytes}
    {options : SignatureOptions} {element : Element} {digest value : Bytes} {d : SignedDocument}
    (h : SignedBy denied signer certificate options element digest value d)
    (around : List NamespaceDecl) :
    readSignature denied d.referenceId ⟨around, d.element⟩
      = if denied.denies envelopedTransform then .error (.deniedAlgorithm envelopedTransform)
        else .ok (.stated d.referenceId digest value certificate options) := by
  have hpoints : SignatureReading.pointsAt d.referenceId
      (SignedInfo.stated d.referenceId (Base64.encode digest) options) = .ok () := if_pos rfl
  rw [WebSso.readSignature, h.onlySignature]
  dsimp only [bind, Except.bind]
  rw [SignedInfo.ofSignature_signatureElement]
  dsimp only
  rw [DenyList.allowed_stated h.allowed]
  by_cases henveloped : denied.denies envelopedTransform = true
  · rw [if_pos henveloped, if_pos henveloped]
  · rw [if_neg henveloped, if_neg henveloped]
    dsimp only
    rw [SignedInfo.options_stated, hpoints, SignedInfo.referenceMethod_stated,
      SignatureReading.readValue_signatureElement,
      SignatureReading.readCertificate_signatureElement]
    rfl

namespace DenyList

/-- **What may be signed with may be named**, but for one thing.  If nothing is denied that an
element is to be signed with, then all that the signature names is allowed just if the enveloped
transform is; and the signature of whatever was signed so is read as it was made just then, and is
otherwise refused for that transform. -/
theorem allows_own_signatures_iff {denied : DenyList} {options : SignatureOptions}
    (h : denied.firstDenied? options = none) :
    (∀ id digest certificate value,
      (∀ uri ∈ (signatureElement id digest certificate options value).algorithms,
          denied.denies uri = false) ↔ denied.denies envelopedTransform = false) ∧
      ∀ signer certificate element d, sign denied signer certificate options element = .ok d →
        ∀ around, ∃ reading, reading.options = options ∧ reading.certificate = some certificate ∧
          reading.info.referenceId? = some d.referenceId ∧
          readSignature denied d.referenceId ⟨around, d.element⟩
            = if denied.denies envelopedTransform then .error (.deniedAlgorithm envelopedTransform)
              else .ok reading := by
  constructor
  · intro id digest certificate value
    simp only [mem_algorithms_signatureElement]
    exact forall_uris_stated_iff h id digest
  · intro signer certificate element d hsign around
    obtain ⟨digest, value, hd⟩ := signedBy_of_sign hsign
    exact ⟨.stated d.referenceId digest value certificate options, rfl, rfl,
      SignedInfo.referenceId?_stated _ _ _, hd.readSignature around⟩

/-- A signer for which all digests and all signature values are the same. -/
def constantSigner : Signer := ⟨fun _ _ _ => .ok [1, 2], fun _ _ _ => .ok [3]⟩

/-- An element that can be signed. -/
def signable : Element :=
  Element.named (saml "Assertion")
    |>.attr "ID" "_a"
    |>.addChild (Element.named (saml "Issuer") |>.addText "https://idp.example")

theorem allows_own_signatures_default :
    DenyList.default.firstDenied? .default = none ∧
      (∀ uri ∈ (signatureElement "_a" "AQI=" [0, 255] .default none).algorithms,
        DenyList.default.denies uri = false) ∧
      ∃ d reading, sign .default constantSigner [0, 255] .default signable = .ok d ∧
        reading.options = .default ∧ readSignature .default d.referenceId ⟨[], d.element⟩
          = .ok reading := by
  have hasked : DenyList.default.firstDenied? .default = none := by decide +kernel
  have henveloped : DenyList.default.denies envelopedTransform = false := by decide +kernel
  obtain ⟨hnamed, hread⟩ := allows_own_signatures_iff hasked
  obtain ⟨d, hd⟩ : ∃ d, sign .default constantSigner [0, 255] .default signable = .ok d := ⟨_, rfl⟩
  obtain ⟨reading, hoptions, -, -, hreading⟩ := hread _ _ _ _ hd []
  rw [henveloped, if_neg Bool.false_ne_true] at hreading
  exact ⟨hasked, (hnamed "_a" "AQI=" [0, 255] none).mpr henveloped, d, reading, hd, hoptions,
    hreading⟩

/-- A list that denies the enveloped transform and nothing else.  It denies nothing that an element
is to be signed with; the element is signed, names the transform, and its signature is refused. -/
theorem denies_own_signature :
    (DenyList.mk [envelopedTransform]).firstDenied? .default = none ∧
      envelopedTransform ∈ (signatureElement "_a" "AQI=" [0, 255] .default none).algorithms ∧
      (DenyList.mk [envelopedTransform]).denies envelopedTransform = true ∧
      ∃ d, sign ⟨[envelopedTransform]⟩ constantSigner [0, 255] .default signable = .ok d ∧
        readSignature ⟨[envelopedTransform]⟩ d.referenceId ⟨[], d.element⟩
          = .error (.deniedAlgorithm envelopedTransform) := by
  have hasked : (DenyList.mk [envelopedTransform]).firstDenied? .default = none := by
    decide +kernel
  have hdenied : (DenyList.mk [envelopedTransform]).denies envelopedTransform = true := by
    decide +kernel
  obtain ⟨d, hd⟩ : ∃ d, sign ⟨[envelopedTransform]⟩ constantSigner [0, 255] .default signable
      = .ok d := by
    rw [sign, hasked]
    exact ⟨_, rfl⟩
  obtain ⟨digest, value, hsigned⟩ := signedBy_of_sign hd
  have hread := hsigned.readSignature []
  rw [hdenied, if_pos rfl] at hread
  exact ⟨hasked, (mem_algorithms_signatureElement "_a" "AQI=" [0, 255] .default none).mpr
    ((mem_uris_stated "_a" "AQI=" .default).mpr (.inr rfl)), hdenied, d, hd, hread⟩

end DenyList

end WebSso
