import WebSso.Proofs.Flow.Parallel
import WebSso.Proofs.IdentityProvider.Issue
import WebSso.Proofs.Xml.Alike

/-!
# What is signed with and without a request

An assertion that answers a request says so, and so does the response around it; without a request
neither says anything of the kind.  A provider that issues both signs four elements, two and two
that are counterparts of each other.  Everything that it does itself in signing is the same for
both; what its signer does with them is not looked into.  All that can be asked of a signer is that
it refuses counterparts alike, and nothing is asked of it about any other elements.

## What is here

* `Assertion.Answers`, assertions that differ in what they answer, with
  `Assertion.Answers.toElement_agree` and `ResponseDocument.toElement_agree`;
* `IdentityProvider.Counterparts`, the elements that are signed in the two cases, which are alike
  (`Counterparts.alike`);
* `IdentityProvider.RefusesAlike`, what may be asked of a signer, and `IdentityProvider.SignsAlike`,
  what comes of it, with `signsAlike_of_refusesAlike` and, where an algorithm is denied, with no
  signer asked, `signsAlike_of_denied`;
* `Signer.reading`, a signer that refuses what is no document, with `refusesAlike_of_reading`.
-/

set_option autoImplicit false
namespace WebSso

/-! ## Assertions and responses -/

/-- The second of two assertions answers a request; they differ in nothing else. -/
def Assertion.Answers (request : String) (a b : Assertion) : Prop :=
  a.inResponseTo = none ∧ b = { a with inResponseTo := some request }

/-- Assertions that differ in what they answer are written alike. -/
theorem Assertion.Answers.toElement_agree {a b : Assertion} {draw : Draw}
    (h : Answers (messageId draw) a b) : Agree Element.Alike a.toElement b.toElement := by
  obtain ⟨hnone, rfl⟩ := h
  have hsubject (notOnOrAfter : String) : (a.subjectElement notOnOrAfter).Alike
      ({ a with inResponseTo := some (messageId draw) }.subjectElement notOnOrAfter) := by
    rw [subjectElement, hnone]
    refine (Element.Alike.refl _).addChild
      ((Element.Alike.refl _).addChild (.attr?_inResponseTo ?_ draw))
    cases a.recipient with
    | none => exact (by decide : "InResponseTo" ∉ ["NotOnOrAfter"])
    | some url => exact (by decide : "InResponseTo" ∉ ["NotOnOrAfter", "Recipient"])
  rw [toElement, toElement]
  refine (Agree.refl a.issueInstant.write).bind ?_
  rintro issued _ rfl
  refine (Agree.refl a.notOnOrAfter.write).bind ?_
  rintro notOnOrAfter _ rfl
  refine (Agree.refl a.notBefore.write).bind ?_
  rintro notBefore _ rfl
  refine (Agree.refl a.authnInstant.write).bind ?_
  rintro authnInstant _ rfl
  refine .ok ((Element.Alike.refl _).addChildren ?_)
  exact .cons (.refl _) (.cons (hsubject notOnOrAfter) (.cons (.refl _) (.cons (.refl _)
    (List.forall₂_same.mpr fun e _ => .refl e))))

/-- Responses around assertions that are alike are written alike, whether or not they answer. -/
theorem ResponseDocument.toElement_agree (d : ResponseDocument) (draw : Draw)
    {signed other : Element} (h : signed.Alike other) :
    Agree Element.Alike { d with inResponseTo := none, assertion := some signed }.toElement
      { d with inResponseTo := some (messageId draw), assertion := some other }.toElement := by
  rw [toElement, toElement]
  refine (Agree.refl d.issueInstant.write).bind ?_
  rintro issued _ rfl
  refine .ok (.addChildren (.attr?_inResponseTo ?_ draw) ?_)
  · cases d.destination with
    | none => exact (by decide :
        "InResponseTo" ∉ ["xmlns:samlp", "xmlns:saml", "ID", "Version", "IssueInstant"])
    | some url => exact (by decide : "InResponseTo" ∉
        ["xmlns:samlp", "xmlns:saml", "ID", "Version", "IssueInstant", "Destination"])
  · exact .cons (.refl _) (.cons (.refl _) (.cons h .nil))

namespace IdentityProvider

variable {p : IdentityProvider} {e f : Element}

/-! ## Counterparts -/

/-- The elements of an assertion that answers nothing and of the same one as an answer to a request
whose ID was drawn. -/
def AssertionCounterparts (e f : Element) : Prop :=
  ∃ (a b : Assertion) (draw : Draw), a.Answers (messageId draw) b ∧ a.toElement = .ok e ∧
    b.toElement = .ok f

/-- What a provider signs without a request and with one. -/
inductive Counterparts (p : IdentityProvider) : Element → Element → Prop where
  /-- The assertion. -/
  | assertion {e f : Element} (assertions : AssertionCounterparts e f) : Counterparts p e f
  /-- The response around the assertion, once that is signed. -/
  | response {e f around about : Element} {d d' : SignedDocument} {document : ResponseDocument}
      {draw : Draw} (assertions : AssertionCounterparts e f) (signed_first : p.signed e = .ok d)
      (signed_second : p.signed f = .ok d')
      (first : { document with inResponseTo := none, assertion := some d.element }.toElement
        = .ok around)
      (second : { document with
        inResponseTo := some (messageId draw), assertion := some d'.element }.toElement
        = .ok about) :
      Counterparts p around about

theorem AssertionCounterparts.alike (h : AssertionCounterparts e f) : e.Alike f := by
  obtain ⟨a, b, draw, hanswers, he, hf⟩ := h
  exact hanswers.toElement_agree.rel he hf

/-- Once they are signed, elements that are alike are alike still. -/
theorem alike_of_signed (h : e.Alike f) {d d' : SignedDocument} (hd : p.signed e = .ok d)
    (hd' : p.signed f = .ok d') : d.element.Alike d'.element := by
  obtain ⟨_, _, hsigned⟩ := signedBy_of_sign hd
  obtain ⟨_, _, hsigned'⟩ := signedBy_of_sign hd'
  exact hsigned.alike h hsigned'

/-- **Counterparts are alike.** -/
theorem Counterparts.alike (h : p.Counterparts e f) : e.Alike f := by
  cases h with
  | assertion assertions => exact assertions.alike
  | response assertions hd hd' first second =>
    have hsigned := alike_of_signed assertions.alike hd hd'
    exact (ResponseDocument.toElement_agree _ _ hsigned).rel first second

/-! ## Signing -/

/-- The digest of an element. -/
def digestOf (p : IdentityProvider) (e : Element) : Except Fault Bytes :=
  p.signer.digest p.options.digest p.options.canonicalization e

/-- An element with a signature that lacks only its value. -/
def staged (p : IdentityProvider) (id : String) (digest : Bytes) (e : Element) : Element :=
  insertSignature (signatureElement id (Base64.encode digest) p.key.certificate.der p.options none) e

/-- The value of a signature, by the element in which it lacks. -/
def valueOf (p : IdentityProvider) (e : Element) : Except Fault Bytes :=
  p.signer.value p.options.signature p.options.canonicalization e

/-- **What may be asked of a signer**: of counterparts it refuses both, for the same cause, or
neither, at each of the two times that it is asked. -/
structure RefusesAlike (p : IdentityProvider) : Prop where
  /-- Digests are computed of both or of neither. -/
  digest : ∀ {e f : Element}, p.Counterparts e f →
    Agree (fun _ _ => True) (p.digestOf e) (p.digestOf f)
  /-- Values are computed for both or for neither, their digests being known. -/
  value : ∀ {e f : Element} {id : String} {digest other : Bytes}, p.Counterparts e f →
    e.signableId = .ok id → p.digestOf e = .ok digest → p.digestOf f = .ok other →
    Agree (fun _ _ => True) (p.valueOf (p.staged id digest e)) (p.valueOf (p.staged id other f))

/-- Counterparts are both refused, for the same cause, or both signed. -/
def SignsAlike (p : IdentityProvider) : Prop :=
  ∀ {e f : Element}, p.Counterparts e f →
    Agree (fun d d' => p.signed e = .ok d ∧ p.signed f = .ok d') (p.signed e) (p.signed f)

/-- **Where a signer refuses counterparts alike, all of signing does.** -/
theorem signsAlike_of_refusesAlike (hp : p.RefusesAlike) : p.SignsAlike := by
  intro e f h
  refine Agree.self (R := fun _ _ => True) ?_
  rw [signed, signed, sign, sign]
  cases p.denied.firstDenied? p.options with
  | some uri => exact .error _
  | none =>
    dsimp only
    rw [h.alike.signableId_eq]
    refine (Agree.refl e.signableId).self.bind ?_
    rintro id _ ⟨hid, hid'⟩
    cases hid.symm.trans hid'
    refine (hp.digest h).self.bind ?_
    rintro digest other ⟨hdigest, hother⟩
    exact (hp.value h hid hdigest hother).bind fun _ _ _ => .ok trivial

/-- Where an algorithm is denied, everything is refused before a signer is asked. -/
theorem signsAlike_of_denied {uri : String} (h : p.denied.firstDenied? p.options = some uri) :
    p.SignsAlike := by
  intro e f _
  have hrefused (e : Element) : p.signed e = .error (.deniedAlgorithm uri) := by
    rw [signed, sign, h]
  rw [hrefused, hrefused]
  exact .error _

end IdentityProvider

/-! ## A signer -/

/-- The text of a document as bytes; what is no document is refused. -/
def Signer.textOf (e : Element) : Except Fault Bytes :=
  if e.WellFormed then .ok (Bytes.ofString e.toXml) else .error (.malformedXml "GotNullPtr")

/-- A signer that reads what it signs, and takes the text for the digest and for the value. -/
def Signer.reading : Signer := ⟨fun _ _ => textOf, fun _ _ => textOf⟩

/-- Of elements that are alike, both have a text or neither has. -/
theorem Signer.textOf_agree {e f : Element} (h : e.Alike f) :
    Agree (fun _ _ => True) (textOf e) (textOf f) := by
  rw [textOf, textOf]
  by_cases he : e.WellFormed
  · rw [if_pos he, if_pos (h.wellFormed_iff.2 he)]
    exact .ok trivial
  · rw [if_neg he, if_neg (mt h.wellFormed_iff.1 he)]
    exact .error _

/-- **A signer that reads what it signs refuses counterparts alike.** -/
theorem IdentityProvider.refusesAlike_of_reading {p : IdentityProvider}
    (h : p.signer = .reading) : p.RefusesAlike where
  digest hef := by
    rw [digestOf, digestOf, h]
    exact Signer.textOf_agree hef.alike
  value hef _ _ _ := by
    rw [valueOf, valueOf, h]
    have hunsigned : (Signature.valueElement none).Alike (Signature.valueElement none) := .refl _
    exact Signer.textOf_agree
      (hef.alike.insertSignature (signatureElement_alike _ _ _ _ _ hunsigned))

end WebSso
