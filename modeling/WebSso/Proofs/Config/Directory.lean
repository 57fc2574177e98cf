import Mathlib.Data.List.Nodup
import WebSso.Resolver

/-!
# Looking up users and relying parties

A configuration that is accepted becomes a directory, and a call finds its user and its relying
party there.  Users are looked up through an index and relying parties by going through them, after
their certificates were read; this file states both in terms of what is configured.

## What is here

* `Config.validate_eq_ok_iff`, which configurations keep the rules;
* `Directory.identity?_eq_findRev?`: of the users with a key, the last one is found, with
  `Directory.identity?_eq_none_iff` and `Directory.key_of_identity?`;
* `Config.serviceProvider?_of_mem`: each relying party of a configuration that is accepted is found
  by its name, with its endpoints, and it has a default one.
-/

set_option autoImplicit false
namespace WebSso

/-! ## Rules -/

namespace Config

/-- **What the rules about relying parties come to**, those before them being seen. -/
theorem validateServiceProviders_eq_ok_iff (l : List ServiceProviderConfig) (seen : List String) :
    validateServiceProviders seen l = .ok () ↔
      (∀ sp ∈ l, sp.entityId ∉ seen) ∧ (l.map (·.entityId)).Nodup ∧ ∀ sp ∈ l, sp.acsUrls ≠ [] := by
  induction l generalizing seen with
  | nil => simp [validateServiceProviders]
  | cons sp rest ih =>
    rw [validateServiceProviders]
    by_cases hseen : sp.entityId ∈ seen
    · rw [if_pos (List.contains_iff_mem.2 hseen)]
      simp [hseen]
    rw [if_neg (mt List.contains_iff_mem.1 hseen)]
    by_cases hurls : sp.acsUrls = []
    · simp [hurls]
    rw [if_neg (by simpa using hurls), ih]
    -- a name is not given again exactly if it is not among those that come later
    rw [List.forall_mem_cons, List.forall_mem_cons, List.map_cons, List.nodup_cons]
    have hlater : (∀ other ∈ rest, other.entityId ∉ sp.entityId :: seen) ↔
        sp.entityId ∉ rest.map (·.entityId) ∧ ∀ other ∈ rest, other.entityId ∉ seen := by
      simp only [List.mem_cons, not_or, List.mem_map, not_exists, not_and, forall_and]
    rw [hlater]
    tauto

/-- **Which configurations keep the rules**: the provider has a name, its assertions are valid for
a while, and its relying parties differ in their names and have endpoints each. -/
theorem validate_eq_ok_iff (c : Config) :
    c.validate = .ok () ↔
      isBlankText c.entityId = false ∧ c.assertionValiditySecs ≠ 0 ∧
        (c.serviceProviders.map (·.entityId)).Nodup ∧
        ∀ sp ∈ c.serviceProviders, sp.acsUrls ≠ [] := by
  rw [validate]
  split_ifs with hblank hzero
  · simp [hblank]
  · simp [hzero]
  · rw [validateServiceProviders_eq_ok_iff]
    simp [hblank, hzero]

end Config

/-! ## Users -/

/-- The place that the index has for a key is that of the last user with it. -/
theorem getElem?_identityIndex (l : List IdentityRecord) (key : String) :
    (identityIndex l)[key]? = (l.zipIdx.findRev? fun entry => entry.1.key == key).map (·.2) := by
  rw [identityIndex, Std.HashMap.ofList_eq_insertMany_empty, Std.HashMap.getElem?_insertMany_list,
    Std.HashMap.getElem?_empty, Option.or_none, List.findSomeRev?_eq_findSome?_reverse,
    List.findRev?_eq_find?_reverse, ← List.map_reverse, List.findSome?_map]
  induction l.zipIdx.reverse with
  | nil => rfl
  | cons entry rest ih =>
    by_cases h : entry.1.key = key
    · simp [h]
    · simpa [h] using ih

namespace Directory

/-- **Of the users with a key, the last one is found.** -/
theorem identity?_eq_findRev? (d : Directory) (key : String) :
    d.identity? key = d.identities.findRev? fun record => record.key == key := by
  have hplaced : (d.identities.findRev? fun record => record.key == key)
      = (d.identities.zipIdx.findRev? fun entry => entry.1.key == key).map (·.1) := by
    rw [List.findRev?_eq_find?_reverse, List.findRev?_eq_find?_reverse]
    conv_lhs => rw [← List.zipIdx_map_fst 0 d.identities, ← List.map_reverse, List.find?_map]
    rfl
  rw [identity?, d.index_eq, getElem?_identityIndex, hplaced]
  cases h : d.identities.zipIdx.findRev? fun entry => entry.1.key == key with
  | none => rfl
  | some entry =>
    rw [List.findRev?_eq_find?_reverse] at h
    exact List.mk_mem_zipIdx_iff_getElem?.1 (List.mem_reverse.1 (List.mem_of_find?_eq_some h))

theorem identity?_eq_none_iff (d : Directory) (key : String) :
    d.identity? key = none ↔ ∀ record ∈ d.identities, record.key ≠ key := by
  rw [identity?_eq_findRev?, List.findRev?_eq_find?_reverse]
  simp

/-- The user that is found for a key has it. -/
theorem key_of_identity? {d : Directory} {key : String} {record : IdentityRecord}
    (h : d.identity? key = some record) : record.key = key := by
  rw [identity?_eq_findRev?, List.findRev?_eq_find?_reverse] at h
  simpa using List.find?_some h

end Directory

/-! ## Relying parties -/

/-- What a relying party is found and reached by: its name and its endpoints. -/
def ServiceProvider.address (sp : ServiceProvider) : String × List String :=
  (sp.entityId, sp.acsUrls)

/-- The address of a relying party as it is configured. -/
def ServiceProviderConfig.address (sp : ServiceProviderConfig) : String × List String :=
  (sp.entityId, sp.acsUrls)

namespace ServiceProvider

variable {readPem : Bytes → Option Bytes}

/-- Reading its certificate leaves the address of a relying party as it is. -/
theorem address_of_ofConfig {configured : ServiceProviderConfig} {sp : ServiceProvider}
    (h : ofConfig readPem configured = .ok sp) : sp.address = configured.address := by
  rw [ofConfig] at h
  split at h
  · cases h
  · split at h
    · cases h
    · cases h
      rfl

theorem map_address_of_mapM {l : List ServiceProviderConfig} {read : List ServiceProvider}
    (h : l.mapM (ofConfig readPem) = .ok read) :
    read.map (·.address) = l.map (·.address) := by
  induction l generalizing read with
  | nil =>
    cases h
    rfl
  | cons configured rest ih =>
    rw [List.mapM_cons] at h
    cases hfirst : ofConfig readPem configured with
    | error cause => rw [hfirst] at h; cases h
    | ok sp =>
      cases hrest : rest.mapM (ofConfig readPem) with
      | error cause => rw [hfirst, hrest] at h; cases h
      | ok others =>
        rw [hfirst, hrest] at h
        cases h
        rw [List.map_cons, List.map_cons, address_of_ofConfig hfirst, ih hrest]

/-- The default endpoint is the first one. -/
theorem head?_acsUrls_of_defaultAcsUrl {sp : ServiceProvider} {url : String}
    (h : sp.defaultAcsUrl = .ok url) : sp.acsUrls.head? = some url := by
  rw [defaultAcsUrl, defaultAcsUrl?] at h
  split at h
  · next hhead =>
    rw [hhead, Except.ok.inj h]
  · cases h

end ServiceProvider

namespace Config

variable {readPem : Bytes → Option Bytes} {c : Config} {d : Directory}

theorem identities_of_directoryWith (h : c.directoryWith readPem = .ok d) :
    d.identities = c.identities := by
  rw [directoryWith] at h
  split at h
  · cases h
  · cases h
    rfl

/-- A resolver has the directory of its configuration. -/
theorem directory_of_resolver {r : Resolver} (h : c.resolver = .ok r) :
    c.directory = .ok r.directory := by
  rw [resolver] at h
  split at h
  · cases h
  · rename_i directory hdirectory
    rw [hdirectory, ← Except.ok.inj h]

/-- **A relying party is found as the first that is configured with its name.** -/
theorem address_serviceProvider? (h : c.directoryWith readPem = .ok d) (entityId : String) :
    (d.serviceProvider? entityId).map (·.address)
      = (c.serviceProviders.find? fun sp => sp.entityId == entityId).map (·.address) := by
  rw [directoryWith] at h
  split at h
  · cases h
  · rename_i read hread
    cases h
    have haddress := congrArg (List.find? fun address => address.1 == entityId)
      (ServiceProvider.map_address_of_mapM hread)
    rw [List.find?_map, List.find?_map] at haddress
    exact haddress

/-- Relying parties that differ in their names are found by them. -/
theorem find?_entityId_of_mem {l : List ServiceProviderConfig}
    (hnodup : (l.map (·.entityId)).Nodup) {sp : ServiceProviderConfig} (hsp : sp ∈ l) :
    (l.find? fun other => other.entityId == sp.entityId) = some sp := by
  cases hfind : l.find? fun other => other.entityId == sp.entityId with
  | none => exact absurd (List.find?_eq_none.1 hfind sp hsp) (by simp)
  | some other =>
    have hname : other.entityId = sp.entityId := by simpa using List.find?_some hfind
    rw [List.inj_on_of_nodup_map hnodup (List.mem_of_find?_eq_some hfind) hsp hname]

/-- **Each relying party of a configuration that is accepted can be reached**: it is found by its
name, with its endpoints, the first of which is the default. -/
theorem serviceProvider?_of_mem (valid : c.validate = .ok ())
    (h : c.directoryWith readPem = .ok d) {sp : ServiceProviderConfig}
    (hsp : sp ∈ c.serviceProviders) :
    ∃ found url, d.serviceProvider? sp.entityId = some found ∧ found.entityId = sp.entityId ∧
      found.acsUrls = sp.acsUrls ∧ found.defaultAcsUrl = .ok url := by
  obtain ⟨-, -, hnodup, hurls⟩ := c.validate_eq_ok_iff.1 valid
  have haddress := address_serviceProvider? h sp.entityId
  rw [find?_entityId_of_mem hnodup hsp] at haddress
  obtain ⟨found, hfound, hreached⟩ := Option.map_eq_some_iff.1 haddress
  obtain ⟨hname, hacs⟩ := Prod.mk.inj hreached
  obtain ⟨url, others, hlist⟩ := List.exists_cons_of_ne_nil (hurls sp hsp)
  refine ⟨found, url, hfound, hname, hacs, ?_⟩
  rw [ServiceProvider.defaultAcsUrl, ServiceProvider.defaultAcsUrl?, hacs, hlist]
  rfl

end Config

end WebSso
