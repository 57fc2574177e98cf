import WebSso.Config.Read
import WebSso.Proofs.Config.Directory
import WebSso.Proofs.Json.Record

/-!
# From a text to a directory

A configuration is read from a text, checked, and turned into a directory, and every later call
relies on what these steps leave.  Keys of users differ because a table with a key given twice is
not read; names of relying parties differ because a configuration with a name given twice is
refused; and both stand in the order of the text, so that looking one up is a search through it.

## What is here

* `IdentityRecord.readTable_eq_ok`, what a table of users is once it is read;
* `Config.ListedIn`, the tables of a configuration as a document lists them, with
  `Config.listedIn_of_read`;
* `ServiceProvider.FromConfig`, what a relying party has of its configuration, and
  `Directory.Represents`, what later calls rely on, with `Config.represents_of_directoryWith`;
* `Config.load_directoryWith`: whatever text and certificates, the directory of a configuration that
  was accepted is as they rely on, and nothing else is refused than what breaks a rule.
-/

set_option autoImplicit false
namespace WebSso

open Json

/-! ## Users -/

namespace IdentityRecord

/-- A member of a table of users, as it is read. -/
def ReadFrom (record : IdentityRecord) (entry : String × Document) : Prop :=
  record.key = entry.1 ∧ Attributes.read entry.2 = .ok record.attributes

/-- **Users are read in their order, and no key is given twice**, to those before them either. -/
theorem readMembers_eq_ok {members : List (String × Document)} {before result : List IdentityRecord}
    (hnodup : (before.map (·.key)).Nodup) (h : readMembers before members = .ok result) :
    (result.map (·.key)).Nodup ∧
      ∃ new, result = before.reverse ++ new ∧
        List.Forall₂ (fun entry record => record.ReadFrom entry) members new := by
  induction members generalizing before with
  | nil =>
    cases h
    refine ⟨?_, [], (List.append_nil _).symm, .nil⟩
    rwa [List.map_reverse, List.nodup_reverse]
  | cons entry members ih =>
    obtain ⟨key, d⟩ := entry
    rw [readMembers] at h
    split at h
    · cases h
    rename_i attributes hattributes
    split at h
    · cases h
    rename_i hfresh
    have hkey : key ∉ before.map (·.key) := by simpa using hfresh
    have hmore : ((⟨key, attributes⟩ :: before).map (·.key)).Nodup :=
      List.nodup_cons.2 ⟨hkey, hnodup⟩
    obtain ⟨hresult, new, rfl, hnew⟩ := ih hmore h
    refine ⟨hresult, ⟨key, attributes⟩ :: new, ?_, .cons ⟨rfl, hattributes⟩ hnew⟩
    rw [List.reverse_cons, List.append_assoc, List.singleton_append]

/-- **A table of users**: its members in their order, with keys that differ. -/
theorem readTable_eq_ok {d : Document} {records : List IdentityRecord}
    (h : readTable d = .ok records) :
    (records.map (·.key)).Nodup ∧
      ∃ members, d = .object members ∧
        List.Forall₂ (fun entry record => record.ReadFrom entry) members records := by
  cases d with
  | object members =>
    have hnone : (([] : List IdentityRecord).map (·.key)).Nodup := List.nodup_nil
    obtain ⟨hnodup, new, hnew, hmembers⟩ := readMembers_eq_ok hnone h
    rw [List.reverse_nil, List.nil_append] at hnew
    exact ⟨hnodup, members, rfl, hnew ▸ hmembers⟩
  | array => cases h
  | null => cases h
  | bool => cases h
  | number => cases h
  | string => cases h

end IdentityRecord

/-! ## The tables of a document -/

namespace Config

/-- The tables of a configuration as a document lists them, in its order. -/
structure ListedIn (doc : Document) (c : Config) : Prop where
  /-- The relying parties; there are none if the document does not speak of them. -/
  serviceProviders : match member? Config.fields "service_providers" doc with
    | none => c.serviceProviders = []
    | some part => ∃ items, part = .array items ∧
        List.Forall₂ (fun item sp => ServiceProviderConfig.read item = .ok sp) items
          c.serviceProviders
  /-- The users; there are none if the document does not speak of them. -/
  identities : match member? Config.fields "identities" doc with
    | none => c.identities = []
    | some part => ∃ members, part = .object members ∧
        List.Forall₂ (fun entry record => record.ReadFrom entry) members c.identities

theorem nodup_fields : (Config.fields.map (·.name)).Nodup := by decide

theorem keeps_serviceProviders :
    Keeps Config.fields "service_providers" (readList ServiceProviderConfig.read)
      Config.serviceProviders := by
  refine .of_mem nodup_fields (List.mem_of_getElem? (i := 11) rfl) (fun _ _ => rfl) ?_
  intro f hf hne d record next h
  simp only [Config.fields, List.mem_cons, List.not_mem_nil, or_false] at hf
  rcases hf with rfl | rfl | rfl | rfl | rfl | rfl | rfl | rfl | rfl | rfl | rfl | rfl | rfl
  all_goals first
    | exact get_of_set_field Config.serviceProviders h fun _ _ => rfl
    | exact absurd rfl hne

theorem keeps_identities :
    Keeps Config.fields "identities" IdentityRecord.readTable Config.identities := by
  refine .of_mem nodup_fields (List.mem_of_getElem? (i := 12) rfl) (fun _ _ => rfl) ?_
  intro f hf hne d record next h
  simp only [Config.fields, List.mem_cons, List.not_mem_nil, or_false] at hf
  rcases hf with rfl | rfl | rfl | rfl | rfl | rfl | rfl | rfl | rfl | rfl | rfl | rfl | rfl
  all_goals first
    | exact get_of_set_field Config.identities h fun _ _ => rfl
    | exact absurd rfl hne

/-- **The tables of a configuration are those of the document it was read from.** -/
theorem listedIn_of_read {doc : Document} {c : Config} (h : Config.read doc = .ok c) :
    c.ListedIn doc := by
  constructor
  · have hread := get_of_readRecord keeps_serviceProviders nodup_fields (by decide) h
    cases hpart : member? fields "service_providers" doc with
    | none =>
      rewrite [hpart] at hread
      exact hread
    | some part =>
      rewrite [hpart] at hread
      cases part with
      | array items => exact ⟨items, rfl, forall₂_of_mapM hread⟩
      | null => cases hread
      | bool => cases hread
      | number => cases hread
      | string => cases hread
      | object => cases hread
  · have hread := get_of_readRecord keeps_identities nodup_fields (by decide) h
    cases hpart : member? fields "identities" doc with
    | none =>
      rewrite [hpart] at hread
      exact hread
    | some part =>
      rewrite [hpart] at hread
      exact (IdentityRecord.readTable_eq_ok hread).2

/-- Whatever a document says of its users, their keys differ. -/
theorem nodup_key_of_read {doc : Document} {c : Config} (h : Config.read doc = .ok c) :
    (c.identities.map (·.key)).Nodup := by
  have hread := get_of_readRecord keeps_identities nodup_fields (by decide) h
  split at hread
  · rw [hread]
    exact List.nodup_nil
  · exact (IdentityRecord.readTable_eq_ok hread).1

end Config

/-! ## The directory of a configuration -/

/-- Where names differ, the one entry of a name is found. -/
theorem find?_eq_some_iff_of_nodup {α : Type} {name : α → String} {l : List α}
    (hnodup : (l.map name).Nodup) {wanted : String} {a : α} :
    (l.find? fun entry => name entry == wanted) = some a ↔ a ∈ l ∧ name a = wanted := by
  constructor
  · intro h
    exact ⟨List.mem_of_find?_eq_some h, by simpa using List.find?_some h⟩
  · rintro ⟨ha, rfl⟩
    cases hfind : l.find? fun entry => name entry == name a with
    | none => exact absurd (List.find?_eq_none.1 hfind a ha) (by simp)
    | some other =>
      have hname : name other = name a := by simpa using List.find?_some hfind
      rw [List.inj_on_of_nodup_map hnodup (List.mem_of_find?_eq_some hfind) ha hname]

namespace ServiceProvider

variable {readPem : Bytes → Option Bytes}

/-- **A certificate is what is read from the text that is configured**, and there is one just if
there is a text. -/
theorem readCertificate_eq_ok {configured : ServiceProviderConfig} {certificate : Option Bytes}
    (h : readCertificate readPem configured = .ok certificate) :
    match configured.certificatePem with
    | none => certificate = none
    | some pem => ∃ der, readPem (Bytes.ofString pem) = some der ∧ certificate = some der := by
  rw [readCertificate] at h
  cases hpem : configured.certificatePem with
  | none =>
    rw [hpem] at h
    exact (Except.ok.inj h).symm
  | some pem =>
    rw [hpem] at h
    dsimp only at h ⊢
    cases hder : readPem (Bytes.ofString pem) with
    | none =>
      rw [hder] at h
      cases h
    | some der =>
      rw [hder] at h
      exact ⟨der, rfl, (Except.ok.inj h).symm⟩

/-- A relying party as it is configured, with the certificate that is read from its configuration
by `readPem`. -/
structure FromConfig (readPem : Bytes → Option Bytes) (sp : ServiceProvider)
    (configured : ServiceProviderConfig) : Prop where
  /-- It has the name and the endpoints. -/
  address : sp.address = configured.address
  /-- It signs its requests if that is configured. -/
  authnRequestsSigned : sp.authnRequestsSigned = configured.authnRequestsSigned
  /-- It has the certificate that is configured, and no other one. -/
  certificate : match configured.certificatePem with
    | none => sp.signingCertificate = none
    | some pem => ∃ der, readPem (Bytes.ofString pem) = some der ∧ sp.signingCertificate = some der
  /-- If it signs its requests, there is a certificate. -/
  required : sp.authnRequestsSigned = true → sp.signingCertificate ≠ none

theorem fromConfig_of_ofConfig {configured : ServiceProviderConfig} {sp : ServiceProvider}
    (h : ofConfig readPem configured = .ok sp) : sp.FromConfig readPem configured := by
  have haddress := address_of_ofConfig h
  rw [ofConfig] at h
  split at h
  · cases h
  rename_i certificate hread
  split at h
  · cases h
  rename_i hneeded
  cases h
  exact ⟨haddress, rfl, readCertificate_eq_ok hread, fun hsigned hnone => hneeded ⟨hsigned, hnone⟩⟩

end ServiceProvider

/-- What the calls to a provider rely on in its directory, certificates being read by `readPem`. -/
structure Directory.Represents (readPem : Bytes → Option Bytes) (d : Directory) (c : Config) :
    Prop where
  /-- No key is given twice. -/
  keys : (c.identities.map (·.key)).Nodup
  /-- The index finds what a search from the front finds. -/
  search : ∀ key, d.identity? key = c.identities.find? fun record => record.key == key
  /-- It finds the one user with a key. -/
  user : ∀ key record, d.identity? key = some record ↔ record ∈ c.identities ∧ record.key = key
  /-- It finds none if there is none. -/
  noUser : ∀ key, d.identity? key = none ↔ ∀ record ∈ c.identities, record.key ≠ key
  /-- Relying parties stand in configured order, with their names, endpoints and certificates. -/
  configured : List.Forall₂ (fun configured sp => sp.FromConfig readPem configured)
    c.serviceProviders d.serviceProviders
  /-- No name is given twice. -/
  names : (d.serviceProviders.map (·.entityId)).Nodup
  /-- The one relying party of a name is found. -/
  party : ∀ entityId sp, d.serviceProvider? entityId = some sp ↔
    sp ∈ d.serviceProviders ∧ sp.entityId = entityId
  /-- Each has a default endpoint, which it accepts. -/
  endpoint : ∀ sp ∈ d.serviceProviders, ∃ url, sp.defaultAcsUrl? = some url ∧
    sp.acceptsAcsUrl url = true
  /-- Each that has to sign its requests has a certificate. -/
  certificate : ∀ sp ∈ d.serviceProviders, sp.authnRequestsSigned = true →
    ∃ der, sp.signingCertificate = some der

namespace Config

variable {readPem : Bytes → Option Bytes} {c : Config} {d : Directory}

theorem forall₂_of_directoryWith (h : c.directoryWith readPem = .ok d) :
    List.Forall₂ (fun configured sp => sp.FromConfig readPem configured) c.serviceProviders
      d.serviceProviders := by
  rw [directoryWith] at h
  split at h
  · cases h
  · rename_i read hread
    cases h
    exact (forall₂_of_mapM hread).imp fun _ _ => ServiceProvider.fromConfig_of_ofConfig

/-- Each relying party of a directory comes from one that is configured. -/
theorem exists_fromConfig (h : c.directoryWith readPem = .ok d) {sp : ServiceProvider}
    (hsp : sp ∈ d.serviceProviders) :
    ∃ configured ∈ c.serviceProviders, sp.FromConfig readPem configured := by
  obtain ⟨place, hplace, rfl⟩ := List.getElem_of_mem hsp
  have hall := List.forall₂_iff_get.1 (forall₂_of_directoryWith h)
  have hplace' : place < c.serviceProviders.length := hall.1 ▸ hplace
  exact ⟨c.serviceProviders.get ⟨place, hplace'⟩, List.get_mem _ _, hall.2 place hplace' hplace⟩

theorem map_entityId_of_directoryWith (h : c.directoryWith readPem = .ok d) :
    d.serviceProviders.map (·.entityId) = c.serviceProviders.map (·.entityId) := by
  have hall := forall₂_of_directoryWith h
  generalize c.serviceProviders = configured, d.serviceProviders = known at hall
  induction hall with
  | nil => rfl
  | cons hfirst _ ih => rw [List.map_cons, List.map_cons, ih, (Prod.mk.inj hfirst.address).1]

/-- **What later calls rely on holds of the directory of a configuration that keeps the rules.** -/
theorem represents_of_directoryWith (hkeys : (c.identities.map (·.key)).Nodup)
    (valid : c.validate = .ok ()) (h : c.directoryWith readPem = .ok d) :
    d.Represents readPem c := by
  obtain ⟨-, -, hnames, hurls⟩ := c.validate_eq_ok_iff.1 valid
  have hidentities := identities_of_directoryWith h
  have hsearch (key : String) :
      d.identity? key = c.identities.find? fun record => record.key == key := by
    have hreverse : (c.identities.reverse.map (·.key)).Nodup := by
      rwa [List.map_reverse, List.nodup_reverse]
    rw [d.identity?_eq_findRev?, hidentities, List.findRev?_eq_find?_reverse]
    ext record
    rw [find?_eq_some_iff_of_nodup hreverse, find?_eq_some_iff_of_nodup hkeys, List.mem_reverse]
  have hnames' : (d.serviceProviders.map (·.entityId)).Nodup := by
    rwa [map_entityId_of_directoryWith h]
  refine ⟨hkeys, hsearch, fun key record => ?_, fun key => ?_, forall₂_of_directoryWith h, hnames',
    fun entityId sp => find?_eq_some_iff_of_nodup hnames', fun sp hsp => ?_,
    fun sp hsp hsigned => ?_⟩
  · rw [hsearch]
    exact find?_eq_some_iff_of_nodup hkeys
  · rw [d.identity?_eq_none_iff, hidentities]
  · obtain ⟨configured, hconfigured, hsame⟩ := exists_fromConfig h hsp
    obtain ⟨url, others, hlist⟩ := List.exists_cons_of_ne_nil (hurls configured hconfigured)
    have hacs : sp.acsUrls = url :: others := (Prod.mk.inj hsame.address).2.trans hlist
    refine ⟨url, ?_, ?_⟩
    · rw [ServiceProvider.defaultAcsUrl?, hacs, List.head?_cons]
    · rw [ServiceProvider.acceptsAcsUrl, hacs, List.contains_iff_mem]
      exact List.mem_cons_self ..
  · obtain ⟨configured, -, hsame⟩ := exists_fromConfig h hsp
    exact Option.ne_none_iff_exists'.1 (hsame.required hsigned)

/-- A configuration that can be loaded was read from a document and keeps the rules. -/
theorem exists_of_load {text : String} (h : Config.load text = .ok c) :
    ∃ doc, Json.parse? text = some doc ∧ Config.read doc = .ok c ∧ c.validate = .ok () := by
  rw [load, readText] at h
  cases hdoc : Json.parse? text with
  | none => rw [hdoc] at h; cases h
  | some doc =>
    rw [hdoc] at h
    dsimp only at h
    split at h
    · cases h
    rename_i read hread
    split at h
    · cases h
    rename_i hvalid
    cases h
    exact ⟨doc, rfl, hread, hvalid⟩

/-- **The directory of a loaded configuration is what later calls rely on**, whatever the text and
however certificates are read: its tables are those of the text, in its order; users and relying
parties are found by keys and names that differ; and each relying party has an endpoint to respond
to, the certificate that is read from its configuration, and one if it needs it.  No configuration is refused but for a blank name, assertions that
are never valid, a name given twice or a relying party without endpoints. -/
theorem load_directoryWith {text : String} (hload : Config.load text = .ok c)
    (h : c.directoryWith readPem = .ok d) :
    (∃ doc, Json.parse? text = some doc ∧ c.ListedIn doc) ∧ d.Represents readPem c ∧
      ∀ (refused : Config) (cause : Fault), refused.validate = .error cause →
        isBlankText refused.entityId = true ∨ refused.assertionValiditySecs = 0 ∨
          ¬(refused.serviceProviders.map (·.entityId)).Nodup ∨
          ∃ sp ∈ refused.serviceProviders, sp.acsUrls = [] := by
  obtain ⟨doc, hdoc, hread, valid⟩ := exists_of_load hload
  refine ⟨⟨doc, hdoc, listedIn_of_read hread⟩,
    represents_of_directoryWith (nodup_key_of_read hread) valid h, fun refused cause hrefused => ?_⟩
  by_contra hkept
  simp only [not_or, not_not, not_exists, not_and, Bool.not_eq_true] at hkept
  rw [refused.validate_eq_ok_iff.2 hkept] at hrefused
  cases hrefused

/-- A configuration of two relying parties, of which one signs its requests, and two users. -/
def pairText : String :=
  "\x7b\"entity_id\":\"idp\",\"service_providers\":[[\"b\",[\"u\"]],[\"a\",[\"v\"],\"P\",true]]," ++
    "\"identities\":\x7b\"2:\":\x7b\x7d,\"1:x\":\x7b\x7d\x7d\x7d"

theorem load_directoryWith_pair :
    ∃ c d, Config.load pairText = .ok c ∧ c.directoryWith some = .ok d ∧ d.Represents some c ∧
      ∃ doc, Json.parse? pairText = some doc ∧ c.ListedIn doc := by
  have hboth : (Config.load pairText).toOption.any
      (fun c => (c.directoryWith some).toOption.isSome) = true := by decide +kernel
  cases hload : Config.load pairText with
  | error cause =>
    rw [hload] at hboth
    cases hboth
  | ok c =>
    rw [hload] at hboth
    cases hdirectory : c.directoryWith some with
    | error cause =>
      change (c.directoryWith some).toOption.isSome = true at hboth
      rw [hdirectory] at hboth
      cases hboth
    | ok d =>
      obtain ⟨hdoc, hrepresents, -⟩ := load_directoryWith hload hdirectory
      exact ⟨c, d, rfl, hdirectory, hrepresents, hdoc⟩

end Config

end WebSso
