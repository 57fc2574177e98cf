import WebSso.Proofs.Codec.Base64
import WebSso.Proofs.Xml.Injective
import WebSso.Proofs.Xml.Node
import WebSso.Metadata

/-!
# Metadata is read as it was written

A service provider imports the metadata of an identity provider: it looks into the document for the
name of the provider, for its certificate and for its endpoints, by the names that the standard
gives them and whatever the qualifiers are.  What it finds is what the document was made of.

A text may be read as more than one element, but not as elements that differ in what is found.  So
the text of a document tells what a descriptor says, and tells no other.

## What is here

* `ProviderDescriptor.ofNode?`, what is found in a document, and
  `ProviderDescriptor.ofNode?_joined`, that it makes no difference how its runs of text were put
  together;
* `ProviderDescriptor.inside`, a part of a document where it stands, and what is found in each part;
* `ProviderDescriptor.ofNode?_toElement`, that a descriptor is found as it was written;
* `ProviderDescriptor.Tells`, texts from which a descriptor is read, with
  `ProviderDescriptor.tells_toDocument` and `ProviderDescriptor.Tells.unique`.
-/

set_option autoImplicit false
namespace WebSso
namespace ProviderDescriptor

/-! ## What is found in a document -/

/-- The flag of a text. -/
def flagOf? (text : String) : Option Bool :=
  if text = "true" then some true else if text = "false" then some false else none

/-- The certificate for signatures that a role tells. -/
def certificateOf? (role : Node) : Option Bytes := do
  let key ← role.only? metadataNamespace "KeyDescriptor"
  let info ← key.only? signatureNamespace "KeyInfo"
  let data ← info.only? signatureNamespace "X509Data"
  let certificate ← data.only? signatureNamespace "X509Certificate"
  if key.attribute? "use" = some "signing" then Base64.decodeText? certificate.text else none

/-- The endpoint that an element tells. -/
def locationOf? (n : Node) : Option SsoLocation := do
  let uri ← n.attribute? "Binding"
  let binding ← Binding.ofUri? uri
  let url ← n.attribute? "Location"
  return (binding, url)

/-- What a document says, if it is metadata of one identity provider. -/
def ofNode? (n : Node) : Option ProviderDescriptor := do
  let entityId ← n.attribute? "entityID"
  let role ← n.only? metadataNamespace "IDPSSODescriptor"
  let certificate ← certificateOf? role
  let flag ← role.attribute? "WantAuthnRequestsSigned"
  let wantsSignedRequests ← flagOf? flag
  let locations ← (role.named metadataNamespace "SingleSignOnService").mapM locationOf?
  let nameIdFormats := (role.named metadataNamespace "NameIDFormat").map Node.text
  if n.isNamed metadataNamespace "EntityDescriptor" then
    return { entityId, certificate, wantsSignedRequests, nameIdFormats, locations }
  else none

@[simp] theorem locationOf?_joined (n : Node) : locationOf? n.joined = locationOf? n := rfl

@[simp] theorem certificateOf?_joined (role : Node) :
    certificateOf? role.joined = certificateOf? role := by
  simp [certificateOf?, Option.bind_map, Function.comp_def]

/-- It makes no difference how runs of text were put together. -/
theorem ofNode?_joined (n : Node) : ofNode? n.joined = ofNode? n := by
  simp [ofNode?, Option.bind_map, Function.comp_def]

/-! ## What is found in the document of a descriptor -/

/-- A part of a document where it stands, behind the declarations that the document begins with. -/
def inside (around : List NamespaceDecl) (part : Element) : Node :=
  ⟨⟨some "md", metadataNamespace⟩ :: ⟨some "ds", signatureNamespace⟩ :: around, part⟩

/-- Reading what was written of each member of a list gives the list. -/
theorem mapM_map_of_leftInverse {α β : Type} {write : α → β} {read : β → Option α}
    (h : ∀ a, read (write a) = some a) (l : List α) : (l.map write).mapM read = some l := by
  induction l with
  | nil => rfl
  | cons a rest ih => simp [h, ih]

section Parts

variable (around : List NamespaceDecl) (d : ProviderDescriptor)

theorem only?_role :
    (Node.mk around d.toElement).only? metadataNamespace "IDPSSODescriptor"
      = some (inside around d.roleElement) :=
  rfl

/-- The parts of a role, first to last. -/
theorem children_role :
    (inside around d.roleElement).children
      = inside around (keyElement d.certificate)
        :: d.nameIdFormats.map (fun format => inside around (nameIdFormatElement format))
        ++ d.locations.map fun location => inside around (locationElement location) := by
  have hparts : d.roleElement.children
      = keyElement d.certificate
        :: d.nameIdFormats.map nameIdFormatElement ++ d.locations.map locationElement := by
    simp [roleElement]
  rw [Node.children, inside, hparts, List.map_append, List.map_cons, List.map_map, List.map_map]
  rfl

/-- The parts of a role by their names. -/
theorem named_role (label : String) :
    (inside around d.roleElement).named metadataNamespace label
      = (if "KeyDescriptor" == label then [inside around (keyElement d.certificate)] else [])
        ++ (if "NameIDFormat" == label then
            d.nameIdFormats.map fun format => inside around (nameIdFormatElement format) else [])
        ++ (if "SingleSignOnService" == label then
            d.locations.map fun location => inside around (locationElement location) else []) := by
  have hkey : (inside around (keyElement d.certificate)).isNamed metadataNamespace label
      = ("KeyDescriptor" == label) := rfl
  have hformats := Node.filter_isNamed_map metadataNamespace label
    (f := fun format => inside around (nameIdFormatElement format))
    (b := "NameIDFormat" == label) (fun _ => rfl) d.nameIdFormats
  have hlocations := Node.filter_isNamed_map metadataNamespace label
    (f := fun location => inside around (locationElement location))
    (b := "SingleSignOnService" == label) (fun _ => rfl) d.locations
  rw [Node.named, children_role, List.filter_append, List.filter_cons, hkey, hformats, hlocations]
  split <;> rfl

theorem certificateOf?_role :
    certificateOf? (inside around d.roleElement) = some d.certificate := by
  have htext := Element.fullText_named_addText (ds "X509Certificate") (Base64.encode d.certificate)
  rw [certificateOf?, Node.only?, named_role]
  -- the names between the role and the certificate are fixed, so the way there is computed
  calc Base64.decodeText?
        ((Element.named (ds "X509Certificate")).addText
          (Base64.encode d.certificate)).content.fullText
      = Base64.decodeText? (Base64.encode d.certificate) := by rw [htext]
    _ = some d.certificate := Base64.decodeText?_encode d.certificate

theorem locationOf?_inside (location : SsoLocation) :
    locationOf? (inside around (locationElement location)) = some location := by
  have huri : (inside around (locationElement location)).attribute? "Binding"
      = some location.1.uri := rfl
  rw [locationOf?, huri, Option.bind_eq_bind, Option.bind_some, Binding.ofUri?_uri]
  rfl

theorem text_nameIdFormat (format : String) :
    (inside around (nameIdFormatElement format)).text = format :=
  Element.fullText_named_addText (md "NameIDFormat") format

theorem flagOf?_flag (flag : Bool) : flagOf? (if flag then "true" else "false") = some flag := by
  cases flag <;> decide +kernel

/-- **A descriptor is read as it was written**, wherever its document stands. -/
theorem ofNode?_toElement : ofNode? ⟨around, d.toElement⟩ = some d := by
  have hid : (Node.mk around d.toElement).attribute? "entityID" = some d.entityId := rfl
  have hnamed : (Node.mk around d.toElement).isNamed metadataNamespace "EntityDescriptor" = true :=
    rfl
  have hflag : (inside around d.roleElement).attribute? "WantAuthnRequestsSigned"
      = some (if d.wantsSignedRequests then "true" else "false") := rfl
  have hlocations := mapM_map_of_leftInverse (locationOf?_inside around) d.locations
  rw [ofNode?, hid, only?_role]
  simp [certificateOf?_role, hflag, flagOf?_flag, named_role, hlocations, hnamed,
    Function.comp_def, text_nameIdFormat]

theorem readable_toElement : d.toElement.Readable := by
  have hkey : (keyElement d.certificate).Readable := by
    simp (disch := decide +kernel) [keyElement]
  have hformat (format : String) : (nameIdFormatElement format).Readable := by
    simp (disch := decide +kernel) [nameIdFormatElement]
  have hlocation (location : SsoLocation) : (locationElement location).Readable := by
    simp (disch := decide +kernel) [locationElement]
  simp (disch := decide +kernel) only [toElement, roleElement, Element.readable_addChild,
    Element.readable_addChildren, Element.readable_attr, Element.readable_declare,
    Element.readable_named, true_and, List.forall_mem_append, List.forall_mem_cons,
    List.forall_mem_map]
  exact ⟨⟨hkey, fun format _ => hformat format⟩, fun location _ => hlocation location⟩

end Parts

/-! ## What a text tells -/

/-- A text tells what a descriptor says: it is the text of a document, and whatever document has
this text, the descriptor is read from it. -/
structure Tells (d : ProviderDescriptor) (xml : String) : Prop where
  /-- There is such a document. -/
  written : ∃ e : Element,
    e.Readable ∧ xmlDeclaration ++ String.ofList (e.write .descriptor) = xml
  /-- The descriptor is read from any. -/
  read (e : Element) (he : e.Readable)
    (hxml : xmlDeclaration ++ String.ofList (e.write .descriptor) = xml) :
    ofNode? ⟨[], e⟩ = some d

/-- **The text of a document tells what its descriptor says.** -/
theorem tells_toDocument (d : ProviderDescriptor) : d.Tells d.toDocument where
  written := ⟨d.toElement, d.readable_toElement, rfl⟩
  read e he hxml := by
    have hwrite : e.write .descriptor = d.toElement.write .descriptor := by
      simpa [toDocument, String.ofList_inj] using hxml
    have hjoined : (Node.mk [] e).joined = (Node.mk [] d.toElement).joined :=
      congrArg (Node.mk []) (Element.joined_eq_of_write_eq XmlStyle.legible_descriptor he
        d.readable_toElement hwrite)
    rw [← ofNode?_joined, hjoined, ofNode?_joined, ofNode?_toElement]

/-- A text tells one descriptor only. -/
theorem Tells.unique {d d' : ProviderDescriptor} {xml : String} (h : d.Tells xml)
    (h' : d'.Tells xml) : d = d' := by
  obtain ⟨e, he, hxml⟩ := h.written
  have hsame := (h.read e he hxml).symm.trans (h'.read e he hxml)
  exact Option.some.inj hsame

end ProviderDescriptor
end WebSso
