import WebSso.Binding
import WebSso.Vocabulary
import WebSso.Xml.Written

/-!
# Metadata of an identity provider

The document that an identity provider publishes, so that service providers know where to send
requests and which certificate its signatures are made with.

## What is here

* `ProviderDescriptor`, what the document says, with `ProviderDescriptor.toDocument`;
* `MetadataDraft`, what has been said so far, and `MetadataEdit`, one thing that can be said;
* `MetadataDraft.finish`, the descriptor of a draft in which nothing required is missing.
-/

set_option autoImplicit false
namespace WebSso

/-! ## Descriptors -/

/-- An endpoint that takes requests. -/
abbrev SsoLocation := Binding × String

/-- What metadata says. -/
structure ProviderDescriptor where
  /-- The name of the provider. -/
  entityId : String
  /-- The bytes of the certificate its signatures are made with. -/
  certificate : Bytes
  /-- Whether requests have to be signed. -/
  wantsSignedRequests : Bool
  /-- The formats of NameID that it gives. -/
  nameIdFormats : List String
  /-- The endpoints that take requests. -/
  locations : List SsoLocation
  deriving DecidableEq

namespace ProviderDescriptor

/-- The part that tells the certificate. -/
def keyElement (certificate : Bytes) : Element :=
  let text := Element.named (ds "X509Certificate") |>.addText (Base64.encode certificate)
  Element.named (md "KeyDescriptor")
    |>.attr "use" "signing"
    |>.addChild
      (Element.named (ds "KeyInfo")
        |>.addChild (Element.named (ds "X509Data") |>.addChild text))

/-- The part that tells a format of NameID. -/
def nameIdFormatElement (format : String) : Element :=
  Element.named (md "NameIDFormat") |>.addText format

/-- The part that tells an endpoint. -/
def locationElement (location : SsoLocation) : Element :=
  Element.named (md "SingleSignOnService")
    |>.attr "Binding" location.1.uri
    |>.attr "Location" location.2

/-- The part that tells all about the provider in its role. -/
def roleElement (d : ProviderDescriptor) : Element :=
  Element.named (md "IDPSSODescriptor")
    |>.attr "WantAuthnRequestsSigned" (if d.wantsSignedRequests then "true" else "false")
    |>.attr "protocolSupportEnumeration" protocolNamespace
    |>.addChildren
      (keyElement d.certificate
        :: d.nameIdFormats.map nameIdFormatElement ++ d.locations.map locationElement)

/-- The document of a descriptor. -/
def toElement (d : ProviderDescriptor) : Element :=
  Element.named (md "EntityDescriptor")
    |>.declare (some "ds") signatureNamespace
    |>.declare (some "md") metadataNamespace
    |>.attr "entityID" d.entityId
    |>.addChild d.roleElement

/-- The text of a descriptor. -/
def toDocument (d : ProviderDescriptor) : String :=
  xmlDeclaration ++ String.ofList (d.toElement.write .descriptor)

end ProviderDescriptor

/-! ## Drafts -/

/-- What has been said of a provider. -/
structure MetadataDraft where
  /-- The name of the provider. -/
  entityId : Option String
  /-- The bytes of its certificate. -/
  certificate : Option Bytes
  /-- Its endpoints, one for each binding at most. -/
  locations : List SsoLocation
  /-- The formats of NameID, each once. -/
  nameIdFormats : List String
  /-- Whether requests have to be signed. -/
  wantsSignedRequests : Bool
  deriving DecidableEq

/-- One thing that can be said of a provider. -/
inductive MetadataEdit where
  | entityId (value : String)
  | certificate (value : Bytes)
  | location (binding : Binding) (url : String)
  | nameIdFormat (value : String)
  | wantsSignedRequests (value : Bool)
  deriving DecidableEq

namespace MetadataDraft

/-- A draft of which nothing has been said. -/
def blank : MetadataDraft := ⟨none, none, [], [], false⟩

/-- The draft after one more thing was said.  The endpoint of a binding takes the place of the one
said before, behind all others; a format said before is not repeated. -/
def edit (d : MetadataDraft) : MetadataEdit → MetadataDraft
  | .entityId value => { d with entityId := some value }
  | .certificate value => { d with certificate := some value }
  | .location binding url =>
      { d with locations := d.locations.filter (fun l => l.1 != binding) ++ [(binding, url)] }
  | .nameIdFormat value =>
      if d.nameIdFormats.contains value then d
      else { d with nameIdFormats := d.nameIdFormats ++ [value] }
  | .wantsSignedRequests value => { d with wantsSignedRequests := value }

/-- The draft of which some things were said, first to last. -/
def ofEdits (edits : List MetadataEdit) : MetadataDraft := edits.foldl edit blank

/-- The descriptor of a draft.  The first thing that is missing is reported. -/
def finish (d : MetadataDraft) : Except Fault ProviderDescriptor :=
  match d.entityId, d.certificate, d.locations with
  | none, _, _ => .error (.config "metadata needs an entity_id")
  | some _, none, _ => .error (.config "metadata needs a signing certificate")
  | some _, some _, [] => .error (.config "metadata needs a SingleSignOnService location")
  | some entityId, some certificate, l :: rest =>
    .ok
      { entityId
        certificate
        wantsSignedRequests := d.wantsSignedRequests
        nameIdFormats := d.nameIdFormats
        locations := l :: rest }

end MetadataDraft

end WebSso
