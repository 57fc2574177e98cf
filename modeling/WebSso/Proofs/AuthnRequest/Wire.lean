import WebSso.Proofs.Assertion.Wire
import WebSso.Proofs.AuthnRequest.Said

/-!
# The text of a request says what was said last

A request has the text that follows from what was said last of it, and from nothing else: neither
the order in which things were said, nor what was said and then replaced, nor what is below a second
makes a difference.  The other way round, all that was said last can be read off the text, whatever
strings it is made of.

## What is here

* `AuthnRequestDraft.elementWith`, the request of a draft in which nothing is missing, and
  `AuthnRequestDraft.toElement_eq_ok_iff`, the one that is made if any is;
* for each part of a request, what it determines, and `AuthnRequestDraft.asksAs_of_joined_eq`, the
  same for the whole;
* `AuthnRequestDraft.AsksAs`, drafts that ask for the same, and
  `AuthnRequestDraft.toDocument_eq_iff_asksAs`, the requests with the same text;
* `AuthnRequestDraft.toDocument_ofEdits`, what becomes of any things said one after another.
-/

set_option autoImplicit false
namespace WebSso

theorem Binding.uri_injective {a b : Binding} (h : a.uri = b.uri) : a = b := by
  rw [← Option.some.injEq, ← ofUri?_uri a, h, ofUri?_uri]

namespace AuthnRequestDraft
variable {a b : AuthnRequestDraft}

/-! ## The request that is written -/

/-- What is required of a request, with the text of its instant. -/
structure Required where
  /-- The format of NameID that is asked for. -/
  nameFormat : String
  /-- What its instant is written as. -/
  issued : String
  /-- Its ID. -/
  id : String
  /-- The endpoint it is sent to. -/
  destination : String
  /-- The endpoint that takes the response. -/
  consumerUrl : String
  /-- Who asks. -/
  issuer : String

/-- A draft has what is required. -/
structure Has (d : AuthnRequestDraft) (r : Required) : Prop where
  /-- The format. -/
  nameFormat : d.nameFormat = some r.nameFormat
  /-- The instant, which is written so. -/
  issueInstant : ∃ t, d.issueInstant = some t ∧ t.write = .ok r.issued
  /-- The ID. -/
  id : d.id = some r.id
  /-- The endpoint of the request. -/
  destination : d.destination = some r.destination
  /-- The endpoint of the response. -/
  consumerUrl : d.consumerUrl = some r.consumerUrl
  /-- The issuer. -/
  issuer : d.issuer = some r.issuer

/-- The request of a draft with what is required. -/
def elementWith (d : AuthnRequestDraft) (r : Required) : Element :=
  Element.named (samlp "AuthnRequest")
    |>.declare (some "samlp") protocolNamespace
    |>.declare (some "saml") assertionNamespace
    |>.attr "ID" r.id
    |>.attr "Version" "2.0"
    |>.attr "IssueInstant" r.issued
    |>.attr "Destination" r.destination
    |>.attr "ProtocolBinding" d.binding.uri
    |>.attr "AssertionConsumerServiceURL" r.consumerUrl
    |>.addChildren (issuerElement r.issuer
      :: (d.subject.map (subjectElement r.nameFormat)).toList
        ++ [policyElement r.nameFormat d.allowCreate])

/-- **What a request looks like**, if there is one. -/
theorem toElement_eq_ok_iff {e : Element} :
    a.toElement = .ok e ↔ ∃ r, a.Has r ∧ a.elementWith r = e := by
  constructor
  · intro h
    rw [toElement] at h
    obtain ⟨nameFormat, hformat, h⟩ := Stop.exists_of_bind_eq_ok h
    obtain ⟨t, ht, h⟩ := Stop.exists_of_bind_eq_ok h
    obtain ⟨id, hid, h⟩ := Stop.exists_of_bind_eq_ok h
    obtain ⟨issued, hissued, h⟩ := Stop.exists_of_bind_eq_ok h
    obtain ⟨destination, hdestination, h⟩ := Stop.exists_of_bind_eq_ok h
    obtain ⟨consumerUrl, hconsumer, h⟩ := Stop.exists_of_bind_eq_ok h
    obtain ⟨issuer, hissuer, h⟩ := Stop.exists_of_bind_eq_ok h
    rw [required_eq_ok_iff] at hformat ht hid hdestination hconsumer hissuer
    exact ⟨⟨nameFormat, issued, id, destination, consumerUrl, issuer⟩,
      ⟨hformat, ⟨t, ht, hissued⟩, hid, hdestination, hconsumer, hissuer⟩, Except.ok.inj h⟩
  · rintro ⟨r, ⟨hformat, ⟨t, ht, hissued⟩, hid, hdestination, hconsumer, hissuer⟩, rfl⟩
    rw [toElement, hformat, ht, hid, hdestination, hconsumer, hissuer]
    simp only [required, bind, Except.bind, hissued]
    rfl

theorem toDocument_eq_ok_iff {xml : String} :
    a.toDocument = .ok xml ↔ ∃ r, a.Has r ∧ (a.elementWith r).toDocument = xml := by
  constructor
  · intro h
    obtain ⟨e, he, h⟩ := Stop.exists_of_bind_eq_ok h
    obtain ⟨r, hr, rfl⟩ := toElement_eq_ok_iff.mp he
    exact ⟨r, hr, Except.ok.inj h⟩
  · rintro ⟨r, hr, rfl⟩
    rw [toDocument, toElement_eq_ok_iff.mpr ⟨r, hr, rfl⟩]
    rfl

theorem readable_elementWith (d : AuthnRequestDraft) (r : Required) :
    (d.elementWith r).Readable := by
  simp (disch := decide +kernel) [elementWith, issuerElement, subjectElement, policyElement, or_imp,
    forall_and]

/-! ## What each part determines -/

theorem flagText_injective {x y : Bool} (h : flagText x = flagText y) : x = y := by
  revert x y
  decide

theorem issuer_eq {x y : String} (h : (issuerElement x).joined = (issuerElement y).joined) :
    x = y := by
  simpa [issuerElement] using Element.ownText_eq h

theorem subject_eq {format x y : String}
    (h : (subjectElement format x).joined = (subjectElement format y).joined) : x = y := by
  have hid := by simpa [subjectElement] using Element.children_eq h
  simpa using Element.ownText_eq hid

theorem policy_eq {format format' : String} {x y : Bool}
    (h : (policyElement format x).joined = (policyElement format' y).joined) :
    format = format' ∧ x = y := by
  have hflag : flagText x = flagText y := by
    simpa [policyElement] using Element.attribute?_eq h "AllowCreate"
  exact ⟨by simpa [policyElement] using Element.attribute?_eq h "Format", flagText_injective hflag⟩

/-- Two drafts ask for the same: they differ in no more than the offsets of their instants and what
is below a second. -/
structure AsksAs (a b : AuthnRequestDraft) : Prop where
  /-- By requests of the same ID. -/
  id : a.id = b.id
  /-- Issued in the same second. -/
  issueInstant : a.issueInstant.map Instant.unixSeconds = b.issueInstant.map Instant.unixSeconds
  /-- By the same issuer. -/
  issuer : a.issuer = b.issuer
  /-- Sent to the same endpoint. -/
  destination : a.destination = b.destination
  /-- With an answer by the same binding. -/
  binding : a.binding = b.binding
  /-- To the same endpoint. -/
  consumerUrl : a.consumerUrl = b.consumerUrl
  /-- With a NameID of the same format. -/
  nameFormat : a.nameFormat = b.nameFormat
  /-- Which may be created for both or for neither. -/
  allowCreate : a.allowCreate = b.allowCreate
  /-- For the same user, if for any. -/
  subject : a.subject = b.subject

section Text

variable {r s : Required}

/-- The parts of a request are determined by its element. -/
theorem parts_eq (h : (a.elementWith r).joined = (b.elementWith s).joined) :
    r.issuer = s.issuer ∧ r.nameFormat = s.nameFormat ∧ a.allowCreate = b.allowCreate ∧
      a.subject = b.subject := by
  have hchildren := Element.children_eq h
  simp only [elementWith, Element.children_addChildren, Element.children_attr,
    Element.children_declare, Element.children_named, List.nil_append, List.map_append,
    List.cons_append, List.map_cons, List.map_nil, List.cons.injEq] at hchildren
  -- the policy comes last, whether or not there is a subject
  obtain ⟨hissuer, hrest⟩ := hchildren
  obtain ⟨hsubject, hpolicy⟩ := List.append_inj' hrest rfl
  obtain ⟨hformat, hflag⟩ := policy_eq (List.cons.inj hpolicy).1
  rw [hformat] at hsubject
  exact ⟨issuer_eq hissuer, hformat, hflag,
    Element.eq_of_toList_map_joined_eq (fun _ _ => subject_eq) hsubject⟩

/-- **All that is asked for is determined by the element.** -/
theorem asksAs_of_joined_eq (ha : a.Has r) (hb : b.Has s)
    (h : (a.elementWith r).joined = (b.elementWith s).joined) : a.AsksAs b := by
  obtain ⟨hissuer, hformat, hflag, hsubject⟩ := parts_eq h
  obtain ⟨t, ht, hissued⟩ := ha.issueInstant
  obtain ⟨u, hu, hissued'⟩ := hb.issueInstant
  have hid : r.id = s.id := by simpa [elementWith] using Element.attribute?_eq h "ID"
  have hinstant : r.issued = s.issued := by
    simpa [elementWith] using Element.attribute?_eq h "IssueInstant"
  have hdestination : r.destination = s.destination := by
    simpa [elementWith] using Element.attribute?_eq h "Destination"
  have hbinding : a.binding.uri = b.binding.uri := by
    simpa [elementWith] using Element.attribute?_eq h "ProtocolBinding"
  have hconsumer : r.consumerUrl = s.consumerUrl := by
    simpa [elementWith] using Element.attribute?_eq h "AssertionConsumerServiceURL"
  exact {
    id := by rw [ha.id, hb.id, hid]
    issueInstant := by
      rw [ht, hu, Option.map_some, Option.map_some,
        (Instant.text_eq_iff_unixSeconds_eq hissued hissued').mp hinstant]
    issuer := by rw [ha.issuer, hb.issuer, hissuer]
    destination := by rw [ha.destination, hb.destination, hdestination]
    binding := Binding.uri_injective hbinding
    consumerUrl := by rw [ha.consumerUrl, hb.consumerUrl, hconsumer]
    nameFormat := by rw [ha.nameFormat, hb.nameFormat, hformat]
    allowCreate := hflag
    subject := hsubject }

/-- Nothing else makes a difference. -/
theorem AsksAs.elementWith_eq (h : a.AsksAs b) (ha : a.Has r) (hb : b.Has s) :
    a.elementWith r = b.elementWith s := by
  obtain ⟨t, ht, hissued⟩ := ha.issueInstant
  obtain ⟨u, hu, hissued'⟩ := hb.issueInstant
  have hseconds : t.unixSeconds = u.unixSeconds := by simpa [ht, hu] using h.issueInstant
  have hinstant := (Instant.text_eq_iff_unixSeconds_eq hissued hissued').mpr hseconds
  have hformat : r.nameFormat = s.nameFormat := by
    simpa [ha.nameFormat, hb.nameFormat] using h.nameFormat
  have hid : r.id = s.id := by simpa [ha.id, hb.id] using h.id
  have hdestination : r.destination = s.destination := by
    simpa [ha.destination, hb.destination] using h.destination
  have hconsumer : r.consumerUrl = s.consumerUrl := by
    simpa [ha.consumerUrl, hb.consumerUrl] using h.consumerUrl
  have hissuer : r.issuer = s.issuer := by simpa [ha.issuer, hb.issuer] using h.issuer
  rw [elementWith, elementWith, hformat, hinstant, hid, hdestination, hconsumer, hissuer,
    h.binding, h.allowCreate, h.subject]

end Text

/-- **Requests have the same text just if they ask for the same.** -/
theorem toDocument_eq_iff_asksAs {xml xml' : String} (ha : a.toDocument = .ok xml)
    (hb : b.toDocument = .ok xml') : xml = xml' ↔ a.AsksAs b := by
  obtain ⟨r, hr, rfl⟩ := toDocument_eq_ok_iff.mp ha
  obtain ⟨s, hs, rfl⟩ := toDocument_eq_ok_iff.mp hb
  constructor
  · intro htext
    have htext : (a.elementWith r).toXml = (b.elementWith s).toXml := by
      simpa [Element.toDocument] using htext
    exact asksAs_of_joined_eq hr hs (Element.joined_eq_of_write_eq XmlStyle.legible_message
      (a.readable_elementWith r) (b.readable_elementWith s) (Element.write_eq_of_toXml_eq htext))
  · intro h
    rw [h.elementWith_eq hr hs]

/-- **Of each kind of thing, what was said last is what counts.**  Whatever is said one after
another, a request is refused for the first that stands in its way; there is one just if all that is
required was said and the instant can be written; and any two have the same text just if what was
said last asks for the same. -/
theorem toDocument_ofEdits (edits edits' : List AuthnRequestEdit) :
    Stop.FirstOf (ofEdits edits).toDocument (lastSaid edits).obstacles ∧
      ((∃ xml, (ofEdits edits).toDocument = .ok xml) ↔ Complete edits) ∧
      ∀ xml xml', (ofEdits edits).toDocument = .ok xml → (ofEdits edits').toDocument = .ok xml' →
        (xml = xml' ↔ (lastSaid edits).AsksAs (lastSaid edits')) := by
  have hfirst := (lastSaid edits).firstOf_obstacles
  rw [ofEdits_eq_lastSaid, ofEdits_eq_lastSaid]
  exact ⟨hfirst, hfirst.exists_ok_iff.trans obstacles_lastSaid_eq_nil_iff,
    fun _ _ => toDocument_eq_iff_asksAs⟩

/-- A request said in good order, at the start of 2030. -/
def plainEdits : List AuthnRequestEdit :=
  [.id "_r1", .issueInstant Assertion.newYear, .issuer "https://sp.example",
    .destination "https://idp.example/sso", .consumerUrl "https://sp.example/acs",
    .nameFormat nameIdUnspecified, .allowCreate false]

/-- The same request with some things said before others took their place, half a second later on a
clock that is an hour ahead. -/
def hesitantEdits : List AuthnRequestEdit :=
  [.allowCreate true, .binding .redirect, .nameFormat "", .issuer "https://sp.example",
    .issueInstant ⟨1893456001000000000, 0, by decide⟩, .destination "https://idp.example/sso",
    .allowCreate false, .id "\"><", .consumerUrl "https://sp.example/acs", .binding .post,
    .issueInstant Assertion.newYearAbroad, .nameFormat nameIdUnspecified, .id "_r1"]

theorem toDocument_plainEdits_eq_hesitantEdits :
    Complete plainEdits ∧ Complete hesitantEdits ∧
      (lastSaid plainEdits).AsksAs (lastSaid hesitantEdits) ∧
      (ofEdits plainEdits).toDocument = (ofEdits hesitantEdits).toDocument := by
  have hplain : Complete plainEdits := obstacles_lastSaid_eq_nil_iff.mp rfl
  have hhesitant : Complete hesitantEdits := obstacles_lastSaid_eq_nil_iff.mp rfl
  have hsame : (lastSaid plainEdits).AsksAs (lastSaid hesitantEdits) :=
    ⟨rfl, rfl, rfl, rfl, rfl, rfl, rfl, rfl, rfl⟩
  obtain ⟨-, hplainText, htext⟩ := toDocument_ofEdits plainEdits hesitantEdits
  obtain ⟨-, hhesitantText, -⟩ := toDocument_ofEdits hesitantEdits plainEdits
  obtain ⟨xml, hxml⟩ := hplainText.mpr hplain
  obtain ⟨xml', hxml'⟩ := hhesitantText.mpr hhesitant
  refine ⟨hplain, hhesitant, hsame, ?_⟩
  rw [hxml, hxml', (htext xml xml' hxml hxml').mpr hsame]

end AuthnRequestDraft
end WebSso
