import WebSso.Attributes.Read
import WebSso.Config

/-!
# Configurations as JSON text

## What is here

* `Config.read`, the record with all its members, none of which is required but the name;
* `Config.load`, the configuration of a text that keeps all rules.
-/

set_option autoImplicit false
namespace WebSso

open Json

namespace ServiceProviderConfig

/-- The members of a relying party, in their order. -/
def fields : List (FieldReader ServiceProviderConfig) :=
  [field "entity_id" true readString fun s sp => { sp with entityId := s },
    field "acs_urls" true (readList readString) fun urls sp => { sp with acsUrls := urls },
    field "certificate_pem" false (readOptional readString) fun pem sp =>
      { sp with certificatePem := pem },
    field "authn_requests_signed" false readBool fun b sp => { sp with authnRequestsSigned := b }]

/-- A relying party. -/
def read : Reader ServiceProviderConfig := readRecord fields ⟨"", [], none, false⟩

end ServiceProviderConfig

namespace NameIdPolicy

/-- The members of a NameID policy, in their order. -/
def fields : List (FieldReader NameIdPolicy) :=
  [field "attribute" false (readOptional readString) fun name p =>
      { p with sourceAttribute := name },
    field "format" false readString fun format p => { p with format := format }]

/-- A NameID policy. -/
def read : Reader NameIdPolicy := readRecord fields .default

end NameIdPolicy

namespace IdentityRecord

/-- The identities of members in order, behind identities already read, which are kept last
first. -/
def readMembers (read : List IdentityRecord) :
    List (String × Document) → Except Json.Fault (List IdentityRecord)
  | [] => .ok read.reverse
  | (key, d) :: rest =>
    match Attributes.read d with
    | .error e => .error e
    | .ok attributes =>
      if read.any fun known => known.key == key then
        .error (.rule ("identity " ++ key ++ " is listed twice"))
      else readMembers (⟨key, attributes⟩ :: read) rest

/-- Identities: an object whose members are keys, none given twice, with their attributes. -/
def readTable : Reader (List IdentityRecord)
  | .object members => readMembers [] members
  | _ => refuse

end IdentityRecord

namespace Config

/-- The members of a configuration, in their order. -/
def fields : List (FieldReader Config) :=
  [field "entity_id" true readString fun s c => { c with entityId := s },
    field "sso_url" false (readOptional readString) fun url c => { c with ssoUrl := url },
    field "assertion_validity_secs" false readNatural fun n c =>
      { c with assertionValiditySecs := n },
    field "clock_skew_secs" false readNatural fun n c => { c with clockSkewSecs := n },
    field "replay_window_secs" false (readOptional readNatural) fun n c =>
      { c with replayWindowSecs := n },
    field "max_request_age_secs" false readNatural fun n c => { c with maxRequestAgeSecs := n },
    field "sign_response" false readBool fun b c => { c with signResponse := b },
    field "denied_algorithms" false (readList readString) fun uris c =>
      { c with deniedAlgorithms := uris },
    field "authn_context_class" false readString fun s c => { c with authnContextClass := s },
    field "name_id" false NameIdPolicy.read fun p c => { c with nameId := p },
    field "attribute_filters" false (readList AttributeFilter.read) fun filters c =>
      { c with attributeFilters := filters },
    field "service_providers" false (readList ServiceProviderConfig.read) fun sps c =>
      { c with serviceProviders := sps },
    field "identities" false IdentityRecord.readTable fun identities c =>
      { c with identities := identities }]

/-- A configuration. -/
def read : Reader Config := readRecord fields defaults

/-- The configuration of a text, if it can be read and keeps all rules. -/
def load (text : String) : Except Fault Config :=
  match readText read text with
  | .error e => .error (.config e.message)
  | .ok c =>
    match c.validate with
    | .error e => .error e
    | .ok () => .ok c

end Config

end WebSso
