import WebSso.Proofs.Keyed
import WebSso.Proofs.Metadata.Reading

/-!
# Metadata says what was said of the provider

A provider is described by saying things of it one after another.  What is said again is treated in
three ways: the name, the certificate and the flag are those said last; a format that was said
before is passed over; and an endpoint drops the one its binding had, and comes last.  So the draft
that is reached follows from what was said of each kind, in whatever order the kinds came, and the
text of the document tells this draft and no other.

## What is here

* for each thing that can be said, the part of an edit that says it, such as
  `MetadataEdit.location?`;
* `MetadataDraft.lastSaid`, the draft of what was said of each kind, with
  `MetadataDraft.ofEdits_eq_lastSaid`;
* `MetadataDraft.gaps`, what is missing in a draft, and `MetadataDraft.Complete`, which says of what
  was said that nothing is missing;
* `MetadataDraft.published`, the document of a draft, with `MetadataDraft.published_eq_error_iff`,
  `MetadataDraft.exists_tells_of_published` and `MetadataDraft.published_eq_iff`, and
  `MetadataDraft.published_ofEdits`, what becomes of any things said one after another.
-/

set_option autoImplicit false
namespace WebSso

/-! ## What was said of each kind -/

namespace MetadataEdit

/-- The name that is said. -/
@[simp]
def entityId? : MetadataEdit → Option String
  | .entityId value => some value
  | _ => none

/-- The certificate that is said. -/
@[simp]
def certificate? : MetadataEdit → Option Bytes
  | .certificate value => some value
  | _ => none

/-- The endpoint that is said, by its binding. -/
@[simp]
def location? : MetadataEdit → Option SsoLocation
  | .location binding url => some (binding, url)
  | _ => none

/-- The format that is said. -/
@[simp]
def nameIdFormat? : MetadataEdit → Option String
  | .nameIdFormat value => some value
  | _ => none

/-- What is said about signed requests. -/
@[simp]
def wantsSignedRequests? : MetadataEdit → Option Bool
  | .wantsSignedRequests value => some value
  | _ => none

end MetadataEdit

namespace MetadataDraft

open MetadataEdit

/-- The draft of what was said of each kind: the last name, certificate and flag, each format where
it was said first, and for each binding its last endpoint, where that was said. -/
def lastSaid (edits : List MetadataEdit) : MetadataDraft where
  entityId := (edits.filterMap entityId?).getLast?
  certificate := (edits.filterMap certificate?).getLast?
  locations := keptAtEnd (edits.filterMap location?)
  nameIdFormats := (edits.filterMap nameIdFormat?).eraseDups
  wantsSignedRequests := (edits.filterMap wantsSignedRequests?).getLast?.getD false

/-- One more thing said. -/
theorem edit_lastSaid (edits : List MetadataEdit) (e : MetadataEdit) :
    (lastSaid edits).edit e = lastSaid (edits ++ [e]) := by
  simp only [lastSaid, filterMap_concat]
  cases e with
  | entityId value => simp [edit]
  | certificate value => simp [edit]
  | location binding url =>
    have hlast := keptAtEnd_concat (edits.filterMap location?) (binding, url)
    simp [edit, hlast, putAtEnd]
  | nameIdFormat value =>
    have hfirst := eraseDups_concat value (edits.filterMap nameIdFormat?)
    by_cases hsaid : value ∈ edits.filterMap nameIdFormat?
    · simp [edit, hfirst, hsaid]
    · simp [edit, hfirst, hsaid]
  | wantsSignedRequests value => simp [edit]

/-- **A draft has what was said of each kind**, and nothing else. -/
theorem ofEdits_eq_lastSaid (edits : List MetadataEdit) : ofEdits edits = lastSaid edits :=
  foldl_eq_of_concat lastSaid rfl edit_lastSaid edits

/-! ## What is missing -/

/-- What is missing in a draft, in the order in which it is come upon. -/
def gaps (d : MetadataDraft) : List Fault :=
  (if d.entityId.isNone then [.config "metadata needs an entity_id"] else [])
    ++ (if d.certificate.isNone then [.config "metadata needs a signing certificate"] else [])
    ++ (if d.locations.isEmpty then [.config "metadata needs a SingleSignOnService location"]
      else [])

theorem gaps_eq_nil_iff {d : MetadataDraft} :
    d.gaps = [] ↔ d.entityId.isSome ∧ d.certificate.isSome ∧ d.locations ≠ [] := by
  obtain ⟨entityId, certificate, locations, nameIdFormats, flag⟩ := d
  cases entityId <;> cases certificate <;> cases locations <;> simp [gaps]

/-- All that is required was said. -/
structure Complete (edits : List MetadataEdit) : Prop where
  /-- A name was said. -/
  entityId : ∃ e ∈ edits, e.entityId?.isSome
  /-- A certificate was said. -/
  certificate : ∃ e ∈ edits, e.certificate?.isSome
  /-- An endpoint was said. -/
  location : ∃ e ∈ edits, e.location?.isSome

/-- Nothing is missing just if all that is required was said. -/
theorem gaps_lastSaid_eq_nil_iff {edits : List MetadataEdit} :
    (lastSaid edits).gaps = [] ↔ Complete edits := by
  simp only [gaps_eq_nil_iff, lastSaid, isSome_getLast?_filterMap_iff, ne_eq, keptAtEnd_eq_nil_iff]
  rw [← ne_eq, filterMap_ne_nil_iff]
  exact ⟨fun ⟨hid, hcertificate, hlocation⟩ => ⟨hid, hcertificate, hlocation⟩,
    fun ⟨hid, hcertificate, hlocation⟩ => ⟨hid, hcertificate, hlocation⟩⟩

/-! ## The document -/

/-- The draft that a descriptor is made of. -/
def ofDescriptor (d : ProviderDescriptor) : MetadataDraft where
  entityId := some d.entityId
  certificate := some d.certificate
  locations := d.locations
  nameIdFormats := d.nameIdFormats
  wantsSignedRequests := d.wantsSignedRequests

/-- A descriptor says all that its draft does. -/
theorem ofDescriptor_of_finish_eq_ok {d : MetadataDraft} {descriptor : ProviderDescriptor}
    (h : d.finish = .ok descriptor) : ofDescriptor descriptor = d := by
  obtain ⟨entityId, certificate, locations, nameIdFormats, flag⟩ := d
  rw [finish] at h
  split at h
  · cases h
  · cases h
  · cases h
  · obtain rfl := Except.ok.inj h
    simp_all [ofDescriptor]

/-- The document of a draft. -/
def published (d : MetadataDraft) : Except Fault String := d.finish.map (·.toDocument)

section Published

variable {a b d : MetadataDraft} {xml xml' : String}

/-- **A draft is refused for the first that is missing.** -/
theorem published_eq_error_iff {cause : Fault} :
    d.published = .error cause ↔ d.gaps.head? = some cause := by
  obtain ⟨entityId, certificate, locations, nameIdFormats, flag⟩ := d
  cases entityId <;> cases certificate <;> cases locations <;>
    simp [published, finish, gaps, Except.map]

theorem exists_published_iff : (∃ xml, d.published = .ok xml) ↔ d.gaps = [] := by
  obtain ⟨entityId, certificate, locations, nameIdFormats, flag⟩ := d
  cases entityId <;> cases certificate <;> cases locations <;>
    simp [published, finish, gaps, Except.map]

/-- **A document tells its draft.** -/
theorem exists_tells_of_published (h : d.published = .ok xml) :
    ∃ descriptor : ProviderDescriptor, ofDescriptor descriptor = d ∧ descriptor.Tells xml := by
  rw [published] at h
  cases hfinish : d.finish with
  | error cause => simp [hfinish, Except.map] at h
  | ok descriptor =>
    obtain rfl : descriptor.toDocument = xml := by simpa [hfinish, Except.map] using h
    exact ⟨descriptor, ofDescriptor_of_finish_eq_ok hfinish, descriptor.tells_toDocument⟩

/-- **Documents have the same text just if their drafts are the same.** -/
theorem published_eq_iff (ha : a.published = .ok xml) (hb : b.published = .ok xml') :
    xml = xml' ↔ a = b := by
  obtain ⟨x, rfl, hx⟩ := exists_tells_of_published ha
  obtain ⟨y, rfl, hy⟩ := exists_tells_of_published hb
  constructor
  · rintro rfl
    rw [hx.unique hy]
  · intro hdraft
    rw [hdraft] at ha
    exact Except.ok.inj (ha.symm.trans hb)

end Published

/-- **Metadata says what was said of the provider.**  Whatever is said one after another, a document
is refused for the first thing that is missing; there is one just if a name, a certificate and an
endpoint were said; it tells, of each kind of thing, what was said last, the formats once each and
the endpoints one for each binding; and any two have the same text just if all of this is the
same. -/
theorem published_ofEdits (edits edits' : List MetadataEdit) :
    (∀ cause, (ofEdits edits).published = .error cause ↔
        (lastSaid edits).gaps.head? = some cause) ∧
      ((∃ xml, (ofEdits edits).published = .ok xml) ↔ Complete edits) ∧
      (∀ xml, (ofEdits edits).published = .ok xml →
        ∃ d : ProviderDescriptor, ofDescriptor d = lastSaid edits ∧ d.Tells xml) ∧
      ∀ xml xml', (ofEdits edits).published = .ok xml → (ofEdits edits').published = .ok xml' →
        (xml = xml' ↔ lastSaid edits = lastSaid edits') := by
  rw [ofEdits_eq_lastSaid, ofEdits_eq_lastSaid]
  exact ⟨fun _ => published_eq_error_iff, exists_published_iff.trans gaps_lastSaid_eq_nil_iff,
    fun _ => exists_tells_of_published, fun _ _ => published_eq_iff⟩

/-- A provider described in good order. -/
def plainEdits : List MetadataEdit :=
  [.entityId "https://idp.example", .certificate [0, 255, 16],
    .location .post "https://idp.example/post", .location .redirect "https://idp.example/redirect",
    .nameIdFormat nameIdUnspecified, .nameIdFormat ""]

/-- The same provider with some things said again: names and endpoints that others took the place
of, and a format that was said before. -/
def hesitantEdits : List MetadataEdit :=
  [.wantsSignedRequests true, .location .redirect "\"><", .entityId "",
    .nameIdFormat nameIdUnspecified, .location .post "https://idp.example/post", .certificate [],
    .nameIdFormat "", .wantsSignedRequests false,
    .location .redirect "https://idp.example/redirect", .nameIdFormat nameIdUnspecified,
    .certificate [0, 255, 16], .entityId "https://idp.example"]

theorem published_plainEdits_eq_hesitantEdits :
    Complete plainEdits ∧ Complete hesitantEdits ∧ lastSaid plainEdits = lastSaid hesitantEdits ∧
      (ofEdits plainEdits).published = (ofEdits hesitantEdits).published := by
  have hplain : Complete plainEdits := gaps_lastSaid_eq_nil_iff.mp rfl
  have hhesitant : Complete hesitantEdits := gaps_lastSaid_eq_nil_iff.mp rfl
  have hsame : lastSaid plainEdits = lastSaid hesitantEdits := by decide +kernel
  obtain ⟨-, hplainText, -, htext⟩ := published_ofEdits plainEdits hesitantEdits
  obtain ⟨-, hhesitantText, -, -⟩ := published_ofEdits hesitantEdits plainEdits
  obtain ⟨xml, hxml⟩ := hplainText.mpr hplain
  obtain ⟨xml', hxml'⟩ := hhesitantText.mpr hhesitant
  refine ⟨hplain, hhesitant, hsame, ?_⟩
  rw [hxml, hxml', (htext xml xml' hxml hxml').mpr hsame]

end MetadataDraft
end WebSso
