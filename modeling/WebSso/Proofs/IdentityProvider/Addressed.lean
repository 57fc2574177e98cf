import WebSso.Proofs.Config.Directory
import WebSso.Proofs.IdentityProvider.Replay
import WebSso.Proofs.IdentityProvider.Unsolicited

/-!
# Whom an accepted configuration can address

A configuration is checked once, when it is read; an answer then relies on what was checked.  The
relying party has to be found, it has to have an endpoint, and the assertion has to be for somebody.
The first two follow from the rules of a configuration.  The last does not: an assertion is for
nobody if the name of the relying party is blank, and no rule is about that.

So a relying party without a name is accepted and can never be answered, and that is found out only
once the ID of a request is consumed.  This file shows that there is no other way in which a
configured relying party cannot be addressed.

## What is here

* `Fault.IsMisaddressed`, the faults that are about addressing, and `Signer.OnlySigns`, that none of
  them comes from the computation of digests and signatures;
* `IdentityProvider.Issues.not_isMisaddressed` and `IdentityProvider.Issues.forNobody`, what becomes
  of a response whose issuer has a name, or has none;
* `IdentityProvider.addresses_configured`: the relying parties of an accepted configuration can be
  addressed exactly if they have names;
* `IdentityProvider.burns_nameless`, a configuration for which one cannot.
-/

set_option autoImplicit false
namespace WebSso

/-- A fault that says that an answer cannot be addressed: for whom it was asked for, or by the
configuration. -/
def Fault.IsMisaddressed : Fault → Prop
  | invalidAudience _ | config _ => True
  | _ => False

/-- What is refused when a digest or a signature is computed is not about addressing. -/
structure Signer.OnlySigns (signer : Signer) : Prop where
  /-- Digests. -/
  digest : ∀ algorithm method element cause,
    signer.digest algorithm method element = .error cause → ¬ cause.IsMisaddressed
  /-- Signature values. -/
  value : ∀ algorithm method element cause,
    signer.value algorithm method element = .error cause → ¬ cause.IsMisaddressed

/-- What is refused in two parts is refused in one of them. -/
theorem error_of_bind {α β : Type} {x : Except Fault α} {f : α → Except Fault β} {cause : Fault}
    (h : x >>= f = .error cause) : x = .error cause ∨ ∃ a, x = .ok a ∧ f a = .error cause := by
  cases x with
  | error refused =>
    cases h
    exact Or.inl rfl
  | ok a => exact Or.inr ⟨a, rfl, h⟩

theorem Element.signableId_not_isMisaddressed {element : Element} {cause : Fault}
    (h : element.signableId = .error cause) : ¬ cause.IsMisaddressed := by
  rw [signableId] at h
  split at h
  · cases h
    exact not_false
  · split at h
    · cases h
      exact not_false
    · cases h

namespace IdentityProvider

variable {p : IdentityProvider} {request : ReceivedRequest} {solicited : Bool} {key : String}
  {now : Instant} {ids : Nat → String} {cause : Fault}

/-! ## Relying parties that have names -/

theorem signed_not_isMisaddressed (signs : p.signer.OnlySigns) {element : Element}
    (h : p.signed element = .error cause) : ¬ cause.IsMisaddressed := by
  rw [signed, sign] at h
  split at h
  · cases h
    exact not_false
  rcases error_of_bind h with hid | ⟨id, -, h⟩
  · exact Element.signableId_not_isMisaddressed hid
  rcases error_of_bind h with hdigest | ⟨digest, -, h⟩
  · exact signs.digest _ _ _ _ hdigest
  rcases error_of_bind h with hvalue | ⟨value, -, h⟩
  · exact signs.value _ _ _ _ hvalue
  · cases h

theorem closed_not_isMisaddressed (signs : p.signer.OnlySigns) {element : Element} {wanted : Bool}
    (h : p.closed element wanted = .error cause) : ¬ cause.IsMisaddressed := by
  cases wanted with
  | false => cases h
  | true =>
    rw [closed, if_pos rfl] at h
    cases hsigned : p.signed element with
    | error refused =>
      rw [hsigned] at h
      cases h
      exact signed_not_isMisaddressed signs hsigned
    | ok document => rw [hsigned] at h; cases h

theorem Delivers.not_isMisaddressed (signs : p.signer.OnlySigns) {assertion : Assertion}
    {id : String} (h : p.Delivers request solicited assertion id (.error cause)) :
    ¬ cause.IsMisaddressed := by
  cases h with
  | unwritten => exact not_false
  | unsigned _ hsigned => exact signed_not_isMisaddressed signs hsigned
  | unclosed _ _ _ hclosed => exact closed_not_isMisaddressed signs hclosed

/-- **A response to a relying party that has a name is not refused for its address.** -/
theorem Issues.not_isMisaddressed (signs : p.signer.OnlySigns)
    (addressed : isBlankText request.issuer = false) {c final : ReplayCache}
    (h : p.Issues request solicited key now c ids (.error cause) final) :
    ¬ cause.IsMisaddressed := by
  cases h with
  | unknownUser => exact not_false
  | replayed => exact not_false
  | admitted _ _ _ completed =>
    cases completed with
    | forNobody blank => rw [addressed] at blank; cases blank
    | replayed => exact not_false
    | issued _ _ _ _ delivered => exact delivered.not_isMisaddressed signs

theorem Responds.not_isMisaddressed (signs : p.signer.OnlySigns)
    (addressed : isBlankText request.issuer = false) {c final : ReplayCache}
    (h : p.Responds request key now c ids (.error cause) final) : ¬ cause.IsMisaddressed := by
  cases h with
  | fromFuture => exact not_false
  | tooOld => exact not_false
  | fresh _ issued => exact issued.not_isMisaddressed signs addressed

/-! ## Relying parties that have none -/

/-- **A response to a relying party without a name is refused**, and the request is used up. -/
theorem Issues.forNobody {c final : ReplayCache} {result : Except Fault FinishedResponse}
    (h : p.Issues request solicited key now c ids result final)
    (blank : isBlankText request.issuer = true)
    (known : ∃ identity, p.resolver.resolve key = .ok identity)
    (unused : c.contains request.id now = false) :
    result = .error noAudience ∧
      ∃ expiry, expiry.nanoseconds = p.heldUntil request.issueInstant now ∧
        final = c.record request.id expiry := by
  cases h with
  | unknownUser unknown =>
    obtain ⟨identity, hknown⟩ := known
    rw [Resolver.resolve_of_unknown unknown] at hknown
    cases hknown
  | replayed _ used =>
    rw [unused] at used
    cases used
  | admitted _ _ held completed =>
    cases completed with
    | forNobody => exact ⟨rfl, _, held, rfl⟩
    | replayed addressed => rw [blank] at addressed; cases addressed
    | issued addressed => rw [blank] at addressed; cases addressed

/-! ## Accepted configurations -/

section Accepted

variable {c : Config}

/-- The configuration of a provider was accepted, and the provider has its directory. -/
theorem BuiltFrom.accepted (h : p.BuiltFrom c) :
    c.validate = .ok () ∧ c.directory = .ok p.resolver.directory := by
  obtain ⟨signingKey, signer, built, options, hbuilt, rfl⟩ := h
  obtain ⟨valid, hresolver, -⟩ := ofConfig_eq_ok hbuilt
  exact ⟨valid, Config.directory_of_resolver hresolver⟩

theorem BuiltFrom.exists_resolve (built : p.BuiltFrom c)
    (hkey : ∃ record ∈ c.identities, record.key = key) :
    ∃ identity, p.resolver.resolve key = .ok identity := by
  obtain ⟨record, hrecord, hname⟩ := hkey
  refine (p.resolver.resolve_cases key).resolve_left fun hnone => ?_
  have hidentities := Config.identities_of_directoryWith built.accepted.2
  rw [Directory.identity?_eq_none_iff, hidentities] at hnone
  exact hnone record hrecord hname

/-- The request that a configured relying party could have sent is never refused.  It is for the first
of its endpoints. -/
theorem BuiltFrom.exists_impliedRequest (built : p.BuiltFrom c) {sp : ServiceProviderConfig}
    (hsp : sp ∈ c.serviceProviders) (id : String) (now : Instant) :
    ∃ url, sp.acsUrls.head? = some url ∧
      p.impliedRequest sp.entityId id now = .ok ⟨id, sp.entityId, url, now, none⟩ := by
  obtain ⟨valid, hdirectory⟩ := built.accepted
  obtain ⟨found, url, hfound, -, hurls, hurl⟩ := Config.serviceProvider?_of_mem valid hdirectory hsp
  have hhead := ServiceProvider.head?_acsUrls_of_defaultAcsUrl hurl
  rw [hurls] at hhead
  exact ⟨url, hhead, (p.impliedRequest_eq_ok_iff _ _ _ _).2 ⟨found, url, hfound, hurl, rfl⟩⟩

/-- How a configured relying party is answered that sent no request. -/
theorem BuiltFrom.run_authenticate (built : p.BuiltFrom c) {sp : ServiceProviderConfig}
    (hsp : sp ∈ c.serviceProviders) (hrange : p.InRange now now) (key : String) (s : Session) :
    ∃ url result, ((p.authenticate key sp.entityId now).run s).1 = Stop.ofFallible result ∧
      p.Issues ⟨s.upcomingId 0, sp.entityId, url, now, none⟩ false key now s.cache
        (fun more => s.upcomingId (more + 1)) result
        ((p.authenticate key sp.entityId now).run s).2.cache := by
  obtain ⟨url, -, himplied⟩ := built.exists_impliedRequest hsp (s.upcomingId 0) now
  rcases IdentityProvider.run_authenticate p key sp.entityId now s with
    ⟨cause, hrefused, -⟩ | ⟨request, hrequest, ⟨hleft, -⟩ | ⟨result, hrun, hissues⟩⟩
  · rw [himplied] at hrefused
    cases hrefused
  · exact absurd hrange hleft
  · obtain rfl := Except.ok.inj (himplied.symm.trans hrequest)
    exact ⟨url, result, hrun, hissues⟩

/-- A configured relying party without a name is not answered, and the ID that was drawn for its
request is used up. -/
theorem BuiltFrom.authenticate_nameless (built : p.BuiltFrom c) {sp : ServiceProviderConfig}
    (hsp : sp ∈ c.serviceProviders) (blank : isBlankText sp.entityId = true)
    (hkey : ∃ record ∈ c.identities, record.key = key) (hrange : p.InRange now now) {s : Session}
    (unused : s.cache.contains (s.upcomingId 0) now = false) :
    ((p.authenticate key sp.entityId now).run s).1 = .error (.refused noAudience) ∧
      ∃ expiry, expiry.nanoseconds = p.heldUntil now now ∧
        ((p.authenticate key sp.entityId now).run s).2.cache
          = s.cache.record (s.upcomingId 0) expiry := by
  obtain ⟨url, result, hrun, hissues⟩ := built.run_authenticate hsp hrange key s
  obtain ⟨rfl, hcache⟩ := hissues.forNobody blank (built.exists_resolve hkey) unused
  exact ⟨hrun, hcache⟩

/-- Nor is its request answered, which is used up as well. -/
theorem BuiltFrom.respond_nameless (built : p.BuiltFrom c)
    (blank : isBlankText request.issuer = true)
    (hkey : ∃ record ∈ c.identities, record.key = key) (fresh : p.Fresh request.issueInstant now)
    (hrange : p.InRange request.issueInstant now) {s : Session}
    (unused : s.cache.contains request.id now = false) :
    (∃ response, ((p.respond request key now).run s).1 = .ok (.rejected noAudience response)) ∧
      ∃ expiry, expiry.nanoseconds = p.heldUntil request.issueInstant now ∧
        ((p.respond request key now).run s).2.cache = s.cache.record request.id expiry := by
  rcases p.run_respond request key now s with ⟨hleft, -⟩ | ⟨outcome, houtcome, hresponds⟩
  · exact absurd hrange hleft
  obtain ⟨hresult, hcache⟩ :=
    (hresponds.issues fresh).forNobody blank (built.exists_resolve hkey) unused
  obtain ⟨response, rfl⟩ := exists_eq_rejected hresult
  exact ⟨⟨response, houtcome⟩, hcache⟩

/-- **Which relying parties an accepted configuration can address.**  All of them are found, with
an endpoint.  One that has a name is answered, for every user, or refused for something else than
its address.  One whose name is blank is refused for it once the ID of its request is consumed, so
that the request cannot be answered any more. -/
theorem addresses_configured (built : p.BuiltFrom c) (signs : p.signer.OnlySigns)
    {sp : ServiceProviderConfig} (hsp : sp ∈ c.serviceProviders)
    (hkey : ∃ record ∈ c.identities, record.key = key) :
    (∃ found url, p.resolver.directory.serviceProvider? sp.entityId = some found ∧
      found.acsUrls = sp.acsUrls ∧ found.defaultAcsUrl = .ok url) ∧
    (isBlankText sp.entityId = false →
      (∀ (now : Instant) (s : Session), p.InRange now now →
        ∃ result, ((p.authenticate key sp.entityId now).run s).1 = Stop.ofFallible result ∧
          ∀ cause, result = .error cause → ¬ cause.IsMisaddressed) ∧
      ∀ (request : ReceivedRequest) (now : Instant) (s : Session), request.issuer = sp.entityId →
        p.InRange request.issueInstant now →
        ∃ outcome, ((p.respond request key now).run s).1 = .ok outcome ∧
          ∀ cause, outcome.result = .error cause → ¬ cause.IsMisaddressed) ∧
    (isBlankText sp.entityId = true →
      (∀ (now : Instant) (s : Session), p.InRange now now →
        s.cache.contains (s.upcomingId 0) now = false →
        ((p.authenticate key sp.entityId now).run s).1 = .error (.refused noAudience) ∧
          ∃ expiry, expiry.nanoseconds = p.heldUntil now now ∧
            ((p.authenticate key sp.entityId now).run s).2.cache
              = s.cache.record (s.upcomingId 0) expiry) ∧
      ∀ (request : ReceivedRequest) (now : Instant) (s : Session), request.issuer = sp.entityId →
        p.Fresh request.issueInstant now → p.InRange request.issueInstant now →
        s.cache.contains request.id now = false →
        (∃ response, ((p.respond request key now).run s).1
          = .ok (.rejected noAudience response)) ∧
          ∃ expiry, expiry.nanoseconds = p.heldUntil request.issueInstant now ∧
            ((p.respond request key now).run s).2.cache = s.cache.record request.id expiry) := by
  refine ⟨?_, fun named => ⟨fun now s hrange => ?_, fun request now s hissuer hrange => ?_⟩,
    fun blank => ⟨fun now s hrange unused => ?_,
      fun request now s hissuer fresh hrange unused => ?_⟩⟩
  · obtain ⟨valid, hdirectory⟩ := built.accepted
    obtain ⟨found, url, hfound, -, hurls, hurl⟩ :=
      Config.serviceProvider?_of_mem valid hdirectory hsp
    exact ⟨found, url, hfound, hurls, hurl⟩
  · obtain ⟨url, result, hrun, hissues⟩ := built.run_authenticate hsp hrange key s
    refine ⟨result, hrun, ?_⟩
    rintro cause rfl
    exact hissues.not_isMisaddressed signs named
  · rcases p.run_respond request key now s with ⟨hleft, -⟩ | ⟨outcome, houtcome, hresponds⟩
    · exact absurd hrange hleft
    refine ⟨outcome, houtcome, fun cause hcause => ?_⟩
    rw [hcause] at hresponds
    exact hresponds.not_isMisaddressed signs (hissuer ▸ named)
  · exact built.authenticate_nameless hsp blank hkey hrange unused
  · exact built.respond_nameless (hissuer ▸ blank) hkey fresh hrange unused

end Accepted

/-- A configuration with two relying parties, one of which has no name. -/
def campusConfig : Config :=
  { soloConfig with
    serviceProviders :=
      [⟨"https://sp.example", ["https://sp.example/acs"], none, false⟩,
        ⟨"", ["https://sp.example/acs"], none, false⟩] }

/-- The provider of `campusConfig`. -/
def campus : IdentityProvider :=
  { solo with resolver :=
      { directory :=
          { identities := campusConfig.identities
            serviceProviders :=
              [⟨"https://sp.example", ["https://sp.example/acs"], none, false⟩,
                ⟨"", ["https://sp.example/acs"], none, false⟩] }
        filters := [] } }

theorem builtFrom_campus : campus.BuiltFrom campusConfig :=
  ⟨blankKey, .unavailable, campus, .default, rfl, rfl⟩

theorem onlySigns_unavailable : Signer.unavailable.OnlySigns where
  digest _ _ _ _ h := by
    cases h
    exact not_false
  value _ _ _ _ h := by
    cases h
    exact not_false

theorem inRange_campus : campus.InRange noon noon := inRange_solo.of_windows rfl rfl rfl

/-- The relying party of `campus` that has a name is not refused for it. -/
theorem addresses_campus :
    campus.BuiltFrom campusConfig ∧ campus.signer.OnlySigns ∧ campus.InRange noon noon ∧
      isBlankText "https://sp.example" = false ∧
      ∃ result, ((campus.authenticate "user1:password" "https://sp.example" noon).run
          (.start fun _ => 0)).1 = Stop.ofFallible result ∧
        ∀ cause, result = .error cause → ¬ cause.IsMisaddressed := by
  have named : isBlankText "https://sp.example" = false := by decide
  have hsp : (⟨"https://sp.example", ["https://sp.example/acs"], none, false⟩ :
      ServiceProviderConfig) ∈ campusConfig.serviceProviders := List.mem_cons_self
  have hkey : ∃ record ∈ campusConfig.identities, record.key = "user1:password" :=
    ⟨_, List.mem_cons_self, rfl⟩
  obtain ⟨-, haddressed, -⟩ := addresses_configured builtFrom_campus onlySigns_unavailable hsp hkey
  exact ⟨builtFrom_campus, onlySigns_unavailable, inRange_campus, named,
    (haddressed named).1 noon (.start fun _ => 0) inRange_campus⟩

/-- **A relying party can be configured that is never answered.**  The user is known, and so is the
relying party; it is refused as nobody, and by then the ID of its request is used up. -/
theorem burns_nameless :
    campus.BuiltFrom campusConfig ∧ campus.signer.OnlySigns ∧ campus.InRange noon noon ∧
      "" ∈ campusConfig.serviceProviders.map (·.entityId) ∧
      "user1:password" ∈ campusConfig.identities.map (·.key) ∧
      ((campus.authenticate "user1:password" "" noon).run (.start fun _ => 0)).1
        = .error (.refused (.invalidAudience "assertion needs at least one audience")) ∧
      ((campus.authenticate "user1:password" "" noon).run
        (.start fun _ => 0)).2.cache.contains ((Session.start fun _ => 0).upcomingId 0) noon
        = true := by
  have hsp : (⟨"", ["https://sp.example/acs"], none, false⟩ : ServiceProviderConfig)
      ∈ campusConfig.serviceProviders := List.mem_cons_of_mem _ List.mem_cons_self
  have hkey : ∃ record ∈ campusConfig.identities, record.key = "user1:password" :=
    ⟨_, List.mem_cons_self, rfl⟩
  obtain ⟨hrefused, expiry, hns, hcache⟩ := builtFrom_campus.authenticate_nameless hsp
    (by decide) hkey inRange_campus (s := .start fun _ => 0) rfl
  refine ⟨builtFrom_campus, onlySigns_unavailable, inRange_campus,
    List.mem_map.2 ⟨_, hsp, rfl⟩, List.mem_map.2 ⟨_, List.mem_cons_self, rfl⟩, hrefused, ?_⟩
  have hlt : noon < expiry := by
    rw [Instant.lt_iff, hns]
    decide
  rw [hcache, ReplayCache.contains_eq_decide (ReplayCache.expiry?_record_self _ _ _),
    decide_eq_true_eq]
  exact hlt

end IdentityProvider

end WebSso
