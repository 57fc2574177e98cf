import WebSso.Proofs.Signature.Reading
import WebSso.SignedDocument

/-!
# Where a signature stands

An element is signed only if it carries no signature yet.  The signature is put among its children,
and nothing else about the element changes, so that whoever looks for the signature of the element
finds this one and no other.

## What is here

* `Element.exists_children_insertSignature`, the children of an element with a signature, and
  `Element.readable_insertSignature`;
* `Element.signableId_eq_ok_iff`, the elements that can be signed;
* `SignedBy`, what a signed document is made of, and `signedBy_of_sign`;
* `SignedBy.onlySignature`, the signature that is found.
-/

set_option autoImplicit false
namespace WebSso

/-! ## Elements with a signature -/

namespace Content
variable {localName : String} {new : Element} {c d : Content}

/-- An element that is inserted stands between the ones that were there. -/
theorem exists_elements_of_insertBehind? (h : c.insertBehind? localName new = some d) :
    ∃ front back, c.elements = front ++ back ∧ d.elements = front ++ new :: back := by
  induction c generalizing d with
  | done => cases h
  | text run rest ih =>
    obtain ⟨d, hd, rfl⟩ := Option.map_eq_some_iff.mp h
    obtain ⟨front, back, hc, hnew⟩ := ih hd
    exact ⟨front, back, hc, hnew⟩
  | element tag inner rest _ ih =>
    rw [insertBehind?] at h
    split at h
    · obtain rfl := Option.some.inj h
      exact ⟨[⟨tag, inner⟩], rest.elements, rfl, rfl⟩
    · obtain ⟨d, hd, rfl⟩ := Option.map_eq_some_iff.mp h
      obtain ⟨front, back, hc, hnew⟩ := ih hd
      refine ⟨⟨tag, inner⟩ :: front, back, ?_, ?_⟩
      · rw [elements, hc, List.cons_append]
      · rw [elements, hnew, List.cons_append]

theorem Readable.of_insertBehind? (hc : c.Readable) (hnew : new.Readable)
    (h : c.insertBehind? localName new = some d) : d.Readable := by
  induction c generalizing d with
  | done => cases h
  | text run rest ih =>
    obtain ⟨d, hd, rfl⟩ := Option.map_eq_some_iff.mp h
    have hrest := ih hc hd
    exact hrest
  | element tag inner rest _ ih =>
    obtain ⟨htag, hinner, hrest⟩ := hc
    rw [insertBehind?] at h
    split at h
    · obtain rfl := Option.some.inj h
      exact ⟨htag, hinner, hnew.1, hnew.2, hrest⟩
    · obtain ⟨d, hd, rfl⟩ := Option.map_eq_some_iff.mp h
      exact ⟨htag, hinner, ih hrest hd⟩

end Content

namespace Element
variable {signature e : Element}

/-- The children of an element with a signature are its own, with the signature among them. -/
theorem exists_children_insertSignature (signature e : Element) :
    ∃ front back, e.children = front ++ back ∧
      (insertSignature signature e).children = front ++ signature :: back := by
  rw [children, children, insertSignature]
  cases h : e.content.insertBehind? "Issuer" signature with
  | some content => exact Content.exists_elements_of_insertBehind? h
  | none => exact ⟨[], e.content.elements, rfl, rfl⟩

theorem readable_insertSignature (he : e.Readable) (hsignature : signature.Readable) :
    (insertSignature signature e).Readable := by
  refine ⟨he.1, ?_⟩
  rw [insertSignature]
  cases h : e.content.insertBehind? "Issuer" signature with
  | some content => exact he.2.of_insertBehind? hsignature h
  | none => exact ⟨hsignature.1, hsignature.2, he.2⟩

theorem readable_signatureElement (id digest : String) (certificate : Bytes)
    (options : SignatureOptions) (value : Option String) :
    (signatureElement id digest certificate options value).Readable := by
  have hvalue : (Signature.valueElement value).Readable := by
    cases value <;> simp (disch := decide +kernel) [Signature.valueElement]
  have htransforms : ∀ e ∈ Signature.transforms options.canonicalization, e.Readable := by
    cases options.canonicalization <;>
      simp (disch := decide +kernel) [Signature.transforms, Signature.algorithmElement,
        Canonicalization.isExclusive]
  simpa (disch := decide +kernel) [signatureElement, Signature.signedInfoElement,
    Signature.referenceElement, Signature.keyInfoElement, Signature.algorithmElement]
    using ⟨htransforms, hvalue⟩

/-- **An element can be signed** under its ID if it has one and carries no signature. -/
theorem signableId_eq_ok_iff {id : String} :
    e.signableId = .ok id ↔
      e.attribute? "ID" = some id ∧ ∀ child ∈ e.children, child.name.localName ≠ "Signature" := by
  rw [signableId]
  cases e.attribute? "ID" with
  | none => exact ⟨nofun, nofun⟩
  | some own =>
    dsimp only
    split
    · next h =>
      obtain ⟨child, hchild, hname⟩ := List.any_eq_true.mp h
      exact ⟨nofun, fun hfree => absurd (by simpa using hname) (hfree.2 child hchild)⟩
    · next h =>
      have hfree : ∀ child ∈ e.children, child.name.localName ≠ "Signature" := by simpa using h
      rw [Except.ok.injEq, Option.some.injEq, and_iff_left hfree]

end Element

/-! ## Signed documents -/

/-- A document is an element with a signature that a signer made for it. -/
structure SignedBy (denied : DenyList) (signer : Signer) (certificate : Bytes)
    (options : SignatureOptions) (element : Element) (digest value : Bytes) (d : SignedDocument) :
    Prop where
  /-- No algorithm that was asked for is denied. -/
  allowed : denied.firstDenied? options = none
  /-- The element was signed under its ID. -/
  signable : element.signableId = .ok d.referenceId
  /-- The digest is that of the element. -/
  digest_eq : signer.digest options.digest options.canonicalization element = .ok digest
  /-- The document is the element with its signature. -/
  document_eq : d.element =
    insertSignature (signatureElement d.referenceId (Base64.encode digest) certificate options
      (some (Base64.encode value))) element

section

variable {denied : DenyList} {signer : Signer} {certificate : Bytes} {options : SignatureOptions}
  {element : Element} {digest value : Bytes} {d : SignedDocument}

/-- What comes of signing an element. -/
theorem signedBy_of_sign (h : sign denied signer certificate options element = .ok d) :
    ∃ digest value, SignedBy denied signer certificate options element digest value d := by
  rw [sign] at h
  split at h
  · cases h
  · next hallowed =>
    cases hid : element.signableId with
    | error cause => rw [hid] at h; cases h
    | ok id =>
      rw [hid] at h
      cases hdigest : signer.digest options.digest options.canonicalization element with
      | error cause => rw [hdigest] at h; cases h
      | ok digest =>
        rw [hdigest] at h
        dsimp only [bind, Except.bind] at h
        split at h
        · cases h
        · next value _ =>
          obtain rfl := Except.ok.inj h
          exact ⟨digest, value, hallowed, hid, hdigest, rfl⟩

namespace SignedBy

/-- **The signature of a signed element** is the only one that is found on it. -/
theorem onlySignature (h : SignedBy denied signer certificate options element digest value d)
    (around : List NamespaceDecl) :
    SignatureReading.onlySignature d.referenceId ⟨around, d.element⟩
      = .ok ⟨(Node.mk around d.element).declared, signatureElement d.referenceId
          (Base64.encode digest) certificate options (some (Base64.encode value))⟩ := by
  have hfree := (Element.signableId_eq_ok_iff.mp h.signable).2
  obtain ⟨front, back, hown, hchildren⟩ := Element.exists_children_insertSignature
    (signatureElement d.referenceId (Base64.encode digest) certificate options
      (some (Base64.encode value))) element
  rw [← h.document_eq] at hchildren
  have hothers : ∀ l ⊆ element.children, (l.map (Node.mk (Node.mk around d.element).declared)).filter
      (·.isNamed signatureNamespace "Signature") = [] := by
    intro l hl
    simp only [List.filter_eq_nil_iff, List.forall_mem_map]
    intro child hchild
    simp [Node.isNamed, hfree child (hl hchild)]
  have hnamed : (Node.mk around d.element).named signatureNamespace "Signature"
      = [⟨(Node.mk around d.element).declared, signatureElement d.referenceId
          (Base64.encode digest) certificate options (some (Base64.encode value))⟩] := by
    rw [Node.named, Node.children, hchildren, List.map_append, List.filter_append, List.map_cons,
      hothers front (by simp [hown]), List.nil_append, List.filter_cons_of_pos rfl,
      hothers back (by simp [hown])]
  rw [SignatureReading.onlySignature, hnamed]

theorem readable (h : SignedBy denied signer certificate options element digest value d)
    (he : element.Readable) : d.element.Readable := by
  rw [h.document_eq]
  exact Element.readable_insertSignature he (Element.readable_signatureElement ..)

end SignedBy
end

end WebSso
