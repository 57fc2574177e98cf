import WebSso.Assertion
import WebSso.Proofs.Time.Written
import WebSso.Proofs.Xml.Injective

/-!
# The text of an assertion determines it

An assertion is signed as text.  So one signature must not stand for two statements: all that an
assertion states can be read off its text, whatever strings its fields are.  Each element of it
gives what it is made of, and the text gives the elements; an instant is given to the second.

## What is here

* `Assertion.elementWith`, the element of an assertion whose instants are written in a given way,
  and `Assertion.toElement_eq_ok_iff`, the one that is made if any is;
* `Assertion.StatesAs`, assertions that state the same;
* for each element, what it determines, and `Assertion.statesAs_of_joined_eq`, the same for the
  whole;
* `Assertion.statesAs_of_toXml_eq`, by which the text determines what is stated.
-/

set_option autoImplicit false
namespace WebSso

namespace Assertion
variable {a b : Assertion}

/-! ## The elements that are written -/

/-- The element of an assertion whose instants are written in a given way. -/
def elementWith (a : Assertion) (issued notOnOrAfter notBefore authnInstant : String) : Element :=
  Element.named (saml "Assertion")
    |>.declare (some "saml") assertionNamespace
    |>.attr "ID" a.id
    |>.attr "Version" "2.0"
    |>.attr "IssueInstant" issued
    |>.addChildren
      (((Element.named (saml "Issuer") |>.addText a.issuer) :: a.subjectElement notOnOrAfter
        :: a.conditionsElement notBefore notOnOrAfter :: a.authnElement authnInstant
        :: a.attributeStatement))

/-- **What an assertion looks like**, if it can be written. -/
theorem toElement_eq_ok_iff {e : Element} :
    a.toElement = .ok e ↔
      ∃ issued notOnOrAfter notBefore authnInstant, a.issueInstant.write = .ok issued ∧
        a.notOnOrAfter.write = .ok notOnOrAfter ∧ a.notBefore.write = .ok notBefore ∧
        a.authnInstant.write = .ok authnInstant ∧
        a.elementWith issued notOnOrAfter notBefore authnInstant = e := by
  constructor
  · intro h
    rw [toElement] at h
    obtain ⟨issued, hissued, h⟩ := Stop.exists_of_bind_eq_ok h
    obtain ⟨notOnOrAfter, hafter, h⟩ := Stop.exists_of_bind_eq_ok h
    obtain ⟨notBefore, hbefore, h⟩ := Stop.exists_of_bind_eq_ok h
    obtain ⟨authnInstant, hauthn, h⟩ := Stop.exists_of_bind_eq_ok h
    exact ⟨issued, notOnOrAfter, notBefore, authnInstant, hissued, hafter, hbefore, hauthn,
      Except.ok.inj h⟩
  · rintro ⟨issued, notOnOrAfter, notBefore, authnInstant, hissued, hafter, hbefore, hauthn, rfl⟩
    rw [toElement, hissued, hafter, hbefore, hauthn]
    rfl

theorem readable_attributeElement (entry : AttributeEntry) : (attributeElement entry).Readable := by
  simp (disch := decide +kernel) [attributeElement]

theorem readable_attributeStatement (a : Assertion) :
    ∀ e ∈ a.attributeStatement, e.Readable := by
  rw [attributeStatement]
  split
  · simp
  · intro e he
    rw [List.mem_singleton.mp he, Element.readable_addChildren]
    refine ⟨Element.readable_named (by decide), ?_⟩
    intro child hchild
    obtain ⟨entry, -, rfl⟩ := List.mem_map.mp hchild
    exact readable_attributeElement entry

theorem readable_elementWith (a : Assertion) (issued notOnOrAfter notBefore authnInstant : String) :
    (a.elementWith issued notOnOrAfter notBefore authnInstant).Readable := by
  simpa (disch := decide +kernel) [elementWith, subjectElement, conditionsElement, authnElement]
    using a.readable_attributeStatement

/-! ## What each element determines -/

theorem attributeElement_injective {x y : AttributeEntry}
    (h : (attributeElement x).joined = (attributeElement y).joined) : x = y := by
  have hname : x.1 = y.1 := by simpa [attributeElement] using Element.attribute?_eq h "Name"
  have hvalues : x.2 = y.2 :=
    Element.eq_of_map_joined_eq (fun _ _ => Element.eq_of_joined_addText)
      (by simpa [attributeElement] using Element.children_eq h)
  exact Prod.ext hname hvalues

/-- No statement is made if there is nothing to state, so that the two cases do not look alike. -/
theorem attributes_eq
    (h : a.attributeStatement.map Element.joined = b.attributeStatement.map Element.joined) :
    a.attributes = b.attributes := by
  have hentries : a.attributes.entries = b.attributes.entries := by
    rw [attributeStatement, attributeStatement] at h
    by_cases ha : a.attributes.isEmpty <;> by_cases hb : b.attributes.isEmpty
    · rw [List.isEmpty_iff.mp ha, List.isEmpty_iff.mp hb]
    · simp [ha, hb] at h
    · simp [ha, hb] at h
    · rw [if_neg ha, if_neg hb] at h
      exact Element.eq_of_map_joined_eq (fun _ _ => attributeElement_injective)
        (by simpa using Element.children_eq (List.cons.inj h).1)
  show (⟨a.attributes.entries⟩ : Attributes) = ⟨b.attributes.entries⟩
  rw [hentries]

theorem subject_eq {t u : String}
    (h : (a.subjectElement t).joined = (b.subjectElement u).joined) :
    a.subject = b.subject ∧ t = u ∧ a.recipient = b.recipient ∧
      a.inResponseTo = b.inResponseTo := by
  obtain ⟨hid, hconfirmation⟩ : _ ∧ _ := by simpa [subjectElement] using Element.children_eq h
  have hdata := by simpa using Element.children_eq hconfirmation
  have hformat : a.subject.format = b.subject.format := by
    simpa using Element.attribute?_eq hid "Format"
  have hnameId : a.subject.nameId = b.subject.nameId := by simpa using Element.ownText_eq hid
  have hsubject : a.subject = b.subject := by
    show (⟨a.subject.nameId, a.subject.format⟩ : Subject) = ⟨b.subject.nameId, b.subject.format⟩
    rw [hnameId, hformat]
  have hafter : t = u := by simpa using Element.attribute?_eq hdata "NotOnOrAfter"
  have hrecipient : a.recipient = b.recipient := by
    simpa using Element.attribute?_eq hdata "Recipient"
  have hrequest : a.inResponseTo = b.inResponseTo := by
    simpa using Element.attribute?_eq hdata "InResponseTo"
  exact ⟨hsubject, hafter, hrecipient, hrequest⟩

theorem conditions_eq {s t u v : String}
    (h : (a.conditionsElement s t).joined = (b.conditionsElement u v).joined) :
    s = u ∧ a.audiences = b.audiences := by
  have hbefore : s = u := by
    simpa [conditionsElement] using Element.attribute?_eq h "NotBefore"
  have hrestriction := by simpa [conditionsElement] using Element.children_eq h
  have haudiences : a.audiences = b.audiences :=
    Element.eq_of_map_joined_eq (fun _ _ => Element.eq_of_joined_addText)
      (by simpa using Element.children_eq hrestriction)
  exact ⟨hbefore, haudiences⟩

theorem authn_eq {t u : String} (h : (a.authnElement t).joined = (b.authnElement u).joined) :
    t = u ∧ a.sessionIndex = b.sessionIndex ∧ a.authnContextClass = b.authnContextClass := by
  have hinstant : t = u := by simpa [authnElement] using Element.attribute?_eq h "AuthnInstant"
  have hsession : a.sessionIndex = b.sessionIndex := by
    simpa [authnElement] using Element.attribute?_eq h "SessionIndex"
  have hcontext := by simpa [authnElement] using Element.children_eq h
  have hclass := by simpa using Element.children_eq hcontext
  exact ⟨hinstant, hsession, Element.eq_of_joined_addText hclass⟩

/-! ## The whole -/

/-- Two assertions state the same: they differ in no more than the offsets of their instants and
what is below a second. -/
structure StatesAs (a b : Assertion) : Prop where
  /-- The same ID. -/
  id : a.id = b.id
  /-- By the same issuer. -/
  issuer : a.issuer = b.issuer
  /-- Of the same subject, in the same format. -/
  subject : a.subject = b.subject
  /-- For the same audiences, in the same order. -/
  audiences : a.audiences = b.audiences
  /-- With the same attributes, in the same order, each with the same values. -/
  attributes : a.attributes = b.attributes
  /-- With the same class of authentication. -/
  authnContextClass : a.authnContextClass = b.authnContextClass
  /-- In the same session. -/
  sessionIndex : a.sessionIndex = b.sessionIndex
  /-- In answer to the same request, if to any. -/
  inResponseTo : a.inResponseTo = b.inResponseTo
  /-- For delivery to the same endpoint, if to any. -/
  recipient : a.recipient = b.recipient
  /-- Issued in the same second. -/
  issueInstant : a.issueInstant.unixSeconds = b.issueInstant.unixSeconds
  /-- Valid from the same second. -/
  notBefore : a.notBefore.unixSeconds = b.notBefore.unixSeconds
  /-- Valid up to the same second. -/
  notOnOrAfter : a.notOnOrAfter.unixSeconds = b.notOnOrAfter.unixSeconds
  /-- With authentication in the same second. -/
  authnInstant : a.authnInstant.unixSeconds = b.authnInstant.unixSeconds

theorem readable_of_toElement_eq {e : Element} (h : a.toElement = .ok e) : e.Readable := by
  obtain ⟨_, _, _, _, -, -, -, -, rfl⟩ := toElement_eq_ok_iff.mp h
  exact a.readable_elementWith ..

/-- Assertions whose elements are the same up to joining state the same. -/
theorem statesAs_of_joined_eq {e f : Element} (ha : a.toElement = .ok e)
    (hb : b.toElement = .ok f) (h : e.joined = f.joined) : a.StatesAs b := by
  obtain ⟨issued, after, before, authn, hissued, hafter, hbefore, hauthn, rfl⟩ :=
    toElement_eq_ok_iff.mp ha
  obtain ⟨issued', after', before', authn', hissued', hafter', hbefore', hauthn', rfl⟩ :=
    toElement_eq_ok_iff.mp hb
  have hid : a.id = b.id := by simpa [elementWith] using Element.attribute?_eq h "ID"
  have hissuedEq : issued = issued' := by
    simpa [elementWith] using Element.attribute?_eq h "IssueInstant"
  obtain ⟨hissuer, hsubject, hconditions, hauthnElement, hstatement⟩ : _ ∧ _ ∧ _ ∧ _ ∧ _ := by
    simpa [elementWith] using Element.children_eq h
  obtain ⟨hsubjectEq, rfl, hrecipient, hrequest⟩ := subject_eq hsubject
  obtain ⟨rfl, haudiences⟩ := conditions_eq hconditions
  obtain ⟨rfl, hsession, hclass⟩ := authn_eq hauthnElement
  subst hissuedEq
  exact {
    id := hid
    issuer := Element.eq_of_joined_addText hissuer
    subject := hsubjectEq
    audiences := haudiences
    attributes := attributes_eq hstatement
    authnContextClass := hclass
    sessionIndex := hsession
    inResponseTo := hrequest
    recipient := hrecipient
    issueInstant := Instant.unixSeconds_eq_of_write_eq hissued hissued'
    notBefore := Instant.unixSeconds_eq_of_write_eq hbefore hbefore'
    notOnOrAfter := Instant.unixSeconds_eq_of_write_eq hafter hafter'
    authnInstant := Instant.unixSeconds_eq_of_write_eq hauthn hauthn' }

/-- **The text of an assertion determines what it states**, whatever strings its fields are. -/
theorem statesAs_of_toXml_eq {e f : Element} (ha : a.toElement = .ok e) (hb : b.toElement = .ok f)
    (h : e.toXml = f.toXml) : a.StatesAs b :=
  statesAs_of_joined_eq ha hb
    (Element.joined_eq_of_write_eq XmlStyle.legible_message (readable_of_toElement_eq ha)
      (readable_of_toElement_eq hb) (Element.write_eq_of_toXml_eq h))

/-- The start of 2030 at UTC. -/
def newYear : Instant := ⟨1893456000000000000, 0, by decide⟩

/-- Half a second later, on a clock that is an hour ahead. -/
def newYearAbroad : Instant := ⟨1893456000500000000, 3600, by decide⟩

theorem newYear_write : newYear.write = .ok "2030-01-01T00:00:00Z" := by rfl

theorem newYearAbroad_write : newYearAbroad.write = .ok "2030-01-01T00:00:00Z" := by rfl

/-- An assertion of which all happens at one instant. -/
def stated (now : Instant) : Assertion where
  id := "_a1"
  issuer := "https://idp.example"
  subject := ⟨"<u1>", nameIdUnspecified⟩
  issueInstant := now
  notBefore := now
  notOnOrAfter := now
  audiences := ["https://sp.example"]
  attributes := ⟨[("uid", ["u1", ""])]⟩
  authnInstant := now
  authnContextClass := passwordProtectedTransport
  sessionIndex := "_s1"
  inResponseTo := some ""
  recipient := none

/-- The element of the assertion, at either instant. -/
def statedElement : Element :=
  (stated newYear).elementWith "2030-01-01T00:00:00Z" "2030-01-01T00:00:00Z" "2030-01-01T00:00:00Z"
    "2030-01-01T00:00:00Z"

theorem stated_newYear_statesAs_newYearAbroad :
    (stated newYear).toElement = .ok statedElement ∧
      (stated newYearAbroad).toElement = .ok statedElement ∧
      (stated newYear).StatesAs (stated newYearAbroad) := by
  have hnewYear : (stated newYear).toElement = .ok statedElement :=
    toElement_eq_ok_iff.mpr
      ⟨_, _, _, _, newYear_write, newYear_write, newYear_write, newYear_write, rfl⟩
  have habroad : (stated newYearAbroad).toElement = .ok statedElement :=
    toElement_eq_ok_iff.mpr
      ⟨_, _, _, _, newYearAbroad_write, newYearAbroad_write, newYearAbroad_write,
        newYearAbroad_write, rfl⟩
  exact ⟨hnewYear, habroad, statesAs_of_toXml_eq hnewYear habroad rfl⟩

end Assertion
end WebSso
