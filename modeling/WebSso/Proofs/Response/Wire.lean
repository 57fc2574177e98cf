import WebSso.Proofs.Assertion.Wire
import WebSso.Proofs.Signature.Place
import WebSso.Response

/-!
# The text of a response determines it

Much of a response is in the words of others: the ID of the request, and whatever name the message
of a fault repeats.  None of them may make a refusal look like a success, or make up an assertion
that nobody issued.  So all that a response says can be read off its text, whatever these words are,
and nothing else of it makes a difference to the text.

The assertion comes last.  What comes before it is determined by the elements that the text is read
as; it is then cut off from the text, and what is left is the text of the assertion.

## What is here

* `Assertion.Carried`, the elements that an assertion is carried as;
* `ResponseDocument.header` and `ResponseDocument.opening`, a response before its parts and up to
  its assertion, and `ResponseDocument.toElement_eq_ok_iff`, the element of a response;
* `Status.toElement_injective` and `ResponseDocument.opening_eq`, what the elements determine;
* `ResponseDocument.StatesAs`, responses that say the same, and
  `ResponseDocument.toXml_eq_iff_statesAs`, the responses with the same text.
-/

set_option autoImplicit false
namespace WebSso

/-! ## The text of a part that may be missing -/

namespace Element

/-- An element has text. -/
theorem write_ne_nil (style : XmlStyle) (e : Element) : e.write style ≠ [] := by
  rw [write, Content.ofElement, Content.write, Tag.writeStart_eq]
  exact List.cons_ne_nil _ _

/-- The text of an element that may be missing says whether it is. -/
theorem flatMap_write_toList_eq_iff {o p : Option Element} :
    o.toList.flatMap (·.write .message) = p.toList.flatMap (·.write .message) ↔
      o.map toXml = p.map toXml := by
  cases o with
  | none =>
    cases p with
    | none => simp
    | some y => simpa using (write_ne_nil .message y)
  | some x =>
    cases p with
    | none => simpa using write_ne_nil .message x
    | some y => simp [toXml, String.ofList_inj]

end Element

/-- The elements that an assertion is carried as. -/
inductive Assertion.Carried : Element → Prop where
  /-- As it is made. -/
  | made {a : Assertion} {e : Element} (h : a.toElement = .ok e) : Carried e
  /-- As it is made, and signed. -/
  | signed {a : Assertion} {e : Element} {denied : DenyList} {signer : Signer}
      {certificate : Bytes} {options : SignatureOptions} {d : SignedDocument}
      (h : a.toElement = .ok e) (hsign : sign denied signer certificate options e = .ok d) :
      Carried d.element

theorem Assertion.Carried.readable {e : Element} (h : Carried e) : e.Readable := by
  cases h with
  | made h => exact readable_of_toElement_eq h
  | signed h hsign =>
    obtain ⟨digest, value, hd⟩ := signedBy_of_sign hsign
    exact hd.readable (readable_of_toElement_eq h)

/-! ## The status -/

theorem StatusCode.uri_injective {a b : StatusCode} (h : a.uri = b.uri) : a = b := by
  rw [← Option.some.injEq, ← ofUri?_uri a, h, ofUri?_uri]

namespace Status

theorem codeElement_eq {code code' : StatusCode} {below below' : List Element}
    (h : (codeElement code below).joined = (codeElement code' below').joined) :
    code = code' ∧ below.map Element.joined = below'.map Element.joined := by
  have huri : code.uri = code'.uri := by simpa [codeElement] using Element.attribute?_eq h "Value"
  exact ⟨StatusCode.uri_injective huri, by simpa [codeElement] using Element.children_eq h⟩

/-- **The element of a status determines it**: a code below, and a message, are there or not. -/
theorem toElement_injective {s t : Status} (h : s.toElement.joined = t.toElement.joined) :
    s = t := by
  obtain ⟨hcode, hmessage⟩ : _ ∧ _ := by simpa [toElement] using Element.children_eq h
  obtain ⟨htop, hbelow⟩ := codeElement_eq hcode
  have hsub : s.subCode = t.subCode :=
    Element.eq_of_toList_map_joined_eq (fun _ _ h => (codeElement_eq h).1) hbelow
  have htext : s.message = t.message :=
    Element.eq_of_toList_map_joined_eq (f := messageElement)
      (fun _ _ => Element.eq_of_joined_addText) hmessage
  show (⟨s.code, s.subCode, s.message⟩ : Status) = ⟨t.code, t.subCode, t.message⟩
  rw [htop, hsub, htext]

theorem readable_toElement (s : Status) : s.toElement.Readable := by
  simp (disch := decide +kernel) [toElement, codeElement, messageElement]

end Status

/-! ## Responses -/

namespace ResponseDocument
variable {a b : ResponseDocument}

/-- A response before anything is in it, with its instant written in a given way. -/
def header (d : ResponseDocument) (issued : String) : Element :=
  Element.named (samlp "Response")
    |>.declare (some "samlp") protocolNamespace
    |>.declare (some "saml") assertionNamespace
    |>.attr "ID" d.id
    |>.attr "Version" "2.0"
    |>.attr "IssueInstant" issued
    |>.attr? "Destination" d.destination
    |>.attr? "InResponseTo" d.inResponseTo

/-- A response up to its assertion. -/
def opening (d : ResponseDocument) (issued : String) : Element :=
  (d.header issued).addChildren
    [Element.named (saml "Issuer") |>.addText d.issuer, d.status.toElement]

/-- **What a response looks like**, if it can be written. -/
theorem toElement_eq_ok_iff {e : Element} :
    a.toElement = .ok e ↔
      ∃ issued, a.issueInstant.write = .ok issued ∧
        (a.opening issued).addChildren a.assertion.toList = e := by
  constructor
  · intro h
    obtain ⟨issued, hissued, h⟩ := Stop.exists_of_bind_eq_ok h
    refine ⟨issued, hissued, ?_⟩
    rw [opening, Element.addChildren_addChildren]
    exact Except.ok.inj h
  · rintro ⟨issued, hissued, rfl⟩
    rw [toElement, hissued, opening, Element.addChildren_addChildren]
    rfl

theorem isDone_opening (d : ResponseDocument) (issued : String) :
    (d.opening issued).content.isDone = false := by
  rw [opening, Element.addChildren, Content.isDone_append]
  exact Bool.and_false _

theorem readable_of_toElement_eq {e : Element} (h : a.toElement = .ok e)
    (hassertion : ∀ x ∈ a.assertion, Assertion.Carried x) : e.Readable := by
  obtain ⟨issued, -, rfl⟩ := toElement_eq_ok_iff.mp h
  have hcarried (x : Element) (hx : a.assertion = some x) : x.Readable := (hassertion x hx).readable
  simpa (disch := decide +kernel) [opening, header] using ⟨a.status.readable_toElement, hcarried⟩

/-- What comes before the assertion is determined by the element. -/
theorem opening_eq {x y : String} {l m : List Element}
    (h : ((a.opening x).addChildren l).joined = ((b.opening y).addChildren m).joined) :
    a.id = b.id ∧ x = y ∧ a.destination = b.destination ∧ a.inResponseTo = b.inResponseTo ∧
      a.issuer = b.issuer ∧ a.status = b.status := by
  obtain ⟨hissuer, hstatus, -⟩ : _ ∧ _ ∧ _ := by
    simpa [opening, header] using Element.children_eq h
  have hid : a.id = b.id := by simpa [opening, header] using Element.attribute?_eq h "ID"
  have hissued : x = y := by simpa [opening, header] using Element.attribute?_eq h "IssueInstant"
  have hdestination : a.destination = b.destination := by
    simpa [opening, header] using Element.attribute?_eq h "Destination"
  have hrequest : a.inResponseTo = b.inResponseTo := by
    simpa [opening, header] using Element.attribute?_eq h "InResponseTo"
  exact ⟨hid, hissued, hdestination, hrequest, Element.eq_of_joined_addText hissuer,
    Status.toElement_injective hstatus⟩

/-- Two responses say the same: they differ in no more than the offsets of their instants and what
is below a second. -/
structure StatesAs (a b : ResponseDocument) : Prop where
  /-- The same ID. -/
  id : a.id = b.id
  /-- By the same issuer. -/
  issuer : a.issuer = b.issuer
  /-- Issued in the same second. -/
  issueInstant : a.issueInstant.unixSeconds = b.issueInstant.unixSeconds
  /-- Sent to the same endpoint, if to any. -/
  destination : a.destination = b.destination
  /-- In answer to the same request, if to any. -/
  inResponseTo : a.inResponseTo = b.inResponseTo
  /-- With the same code, the same code below it and the same message, if any. -/
  status : a.status = b.status
  /-- With an assertion of the same text, if with any. -/
  assertion : a.assertion.map Element.toXml = b.assertion.map Element.toXml

/-- **Responses have the same text just if they say the same**, whatever strings they are made of.
In particular a response without an assertion has another text than one with an assertion, and a
refusal has another text than a success. -/
theorem toXml_eq_iff_statesAs {e f : Element} (ha : a.toElement = .ok e) (hb : b.toElement = .ok f)
    (hcarried : ∀ x ∈ a.assertion, Assertion.Carried x)
    (hcarried' : ∀ x ∈ b.assertion, Assertion.Carried x) :
    e.toXml = f.toXml ↔ a.StatesAs b := by
  have hreadable := readable_of_toElement_eq ha hcarried
  have hreadable' := readable_of_toElement_eq hb hcarried'
  obtain ⟨issued, hissued, rfl⟩ := toElement_eq_ok_iff.mp ha
  obtain ⟨issued', hissued', rfl⟩ := toElement_eq_ok_iff.mp hb
  -- once the openings are the same, the texts differ just as the assertions do
  have hrest (hopening : a.opening issued = b.opening issued') :
      ((a.opening issued).addChildren a.assertion.toList).toXml
          = ((b.opening issued').addChildren b.assertion.toList).toXml ↔
        a.assertion.map Element.toXml = b.assertion.map Element.toXml := by
    rw [hopening, Element.toXml_addChildren_eq_iff (b.isDone_opening issued'),
      Element.flatMap_write_toList_eq_iff]
  constructor
  · intro htext
    have hjoined := Element.joined_eq_of_write_eq XmlStyle.legible_message hreadable hreadable'
      (Element.write_eq_of_toXml_eq htext)
    obtain ⟨hid, hinstant, hdestination, hrequest, hissuer, hstatus⟩ := opening_eq hjoined
    have hopening : a.opening issued = b.opening issued' := by
      rw [opening, opening, header, header, hid, hinstant, hdestination, hrequest, hissuer, hstatus]
    exact {
      id := hid
      issuer := hissuer
      issueInstant := (Instant.text_eq_iff_unixSeconds_eq hissued hissued').mp hinstant
      destination := hdestination
      inResponseTo := hrequest
      status := hstatus
      assertion := (hrest hopening).mp htext }
  · intro h
    have hinstant := (Instant.text_eq_iff_unixSeconds_eq hissued hissued').mpr h.issueInstant
    refine (hrest ?_).mpr h.assertion
    rw [opening, opening, header, header, h.id, hinstant, h.destination, h.inResponseTo, h.issuer,
      h.status]

/-- A refusal whose issuer looks like the rest of a success. -/
def forged : ResponseDocument where
  id := "_p1"
  issuer := "https://idp.example</saml:Issuer><samlp:Status><samlp:StatusCode Value=\""
    ++ StatusCode.success.uri ++ "\"/></samlp:Status></samlp:Response>"
  issueInstant := Assertion.newYear
  destination := some "https://sp.example/acs"
  inResponseTo := some "_r1"
  status := ⟨.requester, some .requestDenied, some ""⟩
  assertion := none

/-- A success with an assertion, half a second later. -/
def granted : ResponseDocument where
  id := "_p1"
  issuer := "https://idp.example"
  issueInstant := Assertion.newYearAbroad
  destination := some "https://sp.example/acs"
  inResponseTo := some "_r1"
  status := .success
  assertion := some Assertion.statedElement

theorem toXml_forged_ne_granted :
    ∃ e f, forged.toElement = .ok e ∧ granted.toElement = .ok f ∧
      (∀ x ∈ forged.assertion, Assertion.Carried x) ∧
      (∀ x ∈ granted.assertion, Assertion.Carried x) ∧ e.toXml ≠ f.toXml := by
  have hforged : forged.toElement = .ok (forged.opening "2030-01-01T00:00:00Z") :=
    toElement_eq_ok_iff.mpr ⟨_, Assertion.newYear_write, rfl⟩
  have hgranted : granted.toElement
      = .ok ((granted.opening "2030-01-01T00:00:00Z").addChildren [Assertion.statedElement]) :=
    toElement_eq_ok_iff.mpr ⟨_, Assertion.newYearAbroad_write, rfl⟩
  have hnone : ∀ x ∈ forged.assertion, Assertion.Carried x := nofun
  have hmade : ∀ x ∈ granted.assertion, Assertion.Carried x := by
    intro x hx
    obtain rfl : Assertion.statedElement = x := Option.some.inj hx
    exact .made (Assertion.toElement_eq_ok_iff.mpr
      ⟨_, _, _, _, Assertion.newYear_write, Assertion.newYear_write, Assertion.newYear_write,
        Assertion.newYear_write, rfl⟩)
  refine ⟨_, _, hforged, hgranted, hnone, hmade, fun htext => ?_⟩
  have hsame := (toXml_eq_iff_statesAs hforged hgranted hnone hmade).mp htext
  cases hsame.status

end ResponseDocument
end WebSso
