import WebSso.Proofs.IdentityProvider.Replay
import WebSso.Proofs.IdentityProvider.Unsolicited
import WebSso.Proofs.Time.Range

/-!
# Configurations with which no instant leaves the range

A configuration may give any number of seconds for its windows.  An instant of these years can be
moved by some 7900 years before it leaves the range; a window that is longer makes a provider give
calls up, and it may do so when the ID of the request is already used up.  This file says which
configurations do not.

Five instants are computed for an answer.  Two of them, with which the freshness of a request is
checked, are computed for every request; the other three only once the user is known.  The last
of those, the end of an assertion, is written at UTC, so that there has to be room for an offset.

## What is here

* `Config.ChecksFit` and `Config.AnswersFit`, what has to hold of the windows;
* `IdentityProvider.inRange_of_fit`: with such windows all instants exist;
* `IdentityProvider.returns_iff`: these are exactly the configurations with which all calls return;
* `IdentityProvider.respond_eternal`, a configuration that is accepted and with which a request is
  used up without an answer.
-/

set_option autoImplicit false
namespace WebSso

namespace Config

/-- The windows with which a request is checked are together not too long. -/
def ChecksFit (c : Config) : Prop := c.maxRequestAgeSecs + c.clockSkewSecs ≤ spareSeconds

/-- Neither the window for which IDs are remembered nor the validity of an assertion is too long;
the end of the latter has to exist at UTC as well. -/
structure AnswersFit (c : Config) : Prop where
  /-- How long IDs are remembered. -/
  remembered : c.replayWindowSecs.getD c.assertionValiditySecs ≤ spareSeconds
  /-- How long an assertion is valid. -/
  valid : c.assertionValiditySecs + widestOffset ≤ spareSeconds

end Config

namespace IdentityProvider

variable {p : IdentityProvider} {c : Config}

/-! ## All instants exist -/

section Exist

variable {issued now : Instant}

theorem isSome_add?_clockSkew (built : p.BuiltFrom c) (hc : c.ChecksFit)
    (hnow : now.Contemporary) : (now.add? p.window.clockSkew).isSome := by
  rw [built.windows.1]
  refine hnow.isSome_add? (Duration.nanoseconds_ofConfigured_nonneg _) ?_
  rw [Config.clockSkew, Duration.nanoseconds_ofConfigured_le_iff (Nat.le_refl _)]
  rw [Config.ChecksFit] at hc
  omega

theorem exists_add?_add? (built : p.BuiltFrom c) (hc : c.ChecksFit)
    (hissued : issued.Contemporary) :
    ∃ aged, issued.add? p.maxRequestAge = some aged ∧
      (aged.add? p.window.clockSkew).isSome := by
  rw [built.windows.1, built.windows.2.2, Config.maxRequestAge, Config.clockSkew]
  rw [Config.ChecksFit] at hc
  have hage := Duration.nanoseconds_ofConfigured (n := c.maxRequestAgeSecs) (by omega)
  have hskew := Duration.nanoseconds_ofConfigured (n := c.clockSkewSecs) (by omega)
  have hroom : ((c.maxRequestAgeSecs + c.clockSkewSecs : Nat) : Int) ≤ spareSeconds := by omega
  have haged : (issued.add? (.ofConfigured c.maxRequestAgeSecs)).isSome := by
    refine hissued.isSome_add? (Duration.nanoseconds_ofConfigured_nonneg _) ?_
    rw [Duration.nanoseconds_ofConfigured_le_iff (Nat.le_refl _)]
    omega
  obtain ⟨aged, haged⟩ := Option.isSome_iff_exists.1 haged
  refine ⟨aged, haged, ?_⟩
  -- both spans together, from the instant of issue
  have hboth : (issued.add? ⟨((c.maxRequestAgeSecs + c.clockSkewSecs : Nat) : Int)
      * nanosPerSecond⟩).isSome := by
    refine hissued.isSome_add? ?_ ?_
    · simp only [nanosPerSecond]
      omega
    · simp only [nanosPerSecond]
      omega
  rw [Instant.isSome_add?_iff] at hboth ⊢
  rw [Instant.nanoseconds_add? haged, Instant.offset_add? haged, hage, hskew]
  simp only [Shown, firstShown, endShown, nanosPerSecond] at hboth ⊢
  omega

theorem exists_acceptedUntil_of_fit (built : p.BuiltFrom c) (hc : c.ChecksFit)
    (hissued : issued.Contemporary) : ∃ last, p.acceptedUntil issued = .ok last := by
  obtain ⟨aged, haged, hlast⟩ := exists_add?_add? built hc hissued
  obtain ⟨last, hlast⟩ := Option.isSome_iff_exists.1 hlast
  refine ⟨last, ?_⟩
  rw [acceptedUntil, haged]
  show Stop.inRange (aged.add? p.window.clockSkew) = .ok last
  rw [hlast]
  rfl

/-- **With windows that fit, all instants exist.** -/
theorem inRange_of_fit (built : p.BuiltFrom c) (hc : c.ChecksFit) (ha : c.AnswersFit)
    (hissued : issued.Contemporary) (hnow : now.Contemporary) : p.InRange issued now := by
  have hskew : (c.clockSkew).nanoseconds ≤ spareSeconds * nanosPerSecond := by
    rw [Config.clockSkew, Duration.nanoseconds_ofConfigured_le_iff (Nat.le_refl _)]
    rw [Config.ChecksFit] at hc
    omega
  have hvalid : (c.assertionValidity).nanoseconds + widestOffset * nanosPerSecond
      ≤ spareSeconds * nanosPerSecond := by
    have hfits := ha.valid
    rw [Config.assertionValidity, Duration.nanoseconds_ofConfigured (by omega)]
    simp only [nanosPerSecond]
    omega
  have hpos := Duration.nanoseconds_ofConfigured_nonneg c.assertionValiditySecs
  have hposSkew := Duration.nanoseconds_ofConfigured_nonneg c.clockSkewSecs
  have hwhole := hnow.wholeSeconds
  refine ⟨isSome_add?_clockSkew built hc hnow, exists_add?_add? built hc hissued, ?_, ?_, ?_,
    hwhole.isSome_toUtc?⟩
  · rw [built.windows.2.1]
    refine hnow.isSome_add? (Duration.nanoseconds_ofConfigured_nonneg _) ?_
    exact (Duration.nanoseconds_ofConfigured_le_iff (Nat.le_refl _)).2 ha.remembered
  · rw [built.windows.1]
    obtain ⟨t, ht⟩ := Option.isSome_iff_exists.1 (hwhole.isSome_sub? hposSkew hskew)
    exact ⟨t, ht, hwhole.isSome_toUtc?_of_sub? hposSkew hskew ht⟩
  · rw [built.windows.1]
    have hroom : (c.assertionValidity).nanoseconds ≤ spareSeconds * nanosPerSecond := by
      simp only [nanosPerSecond] at hvalid ⊢
      omega
    obtain ⟨t, ht⟩ := Option.isSome_iff_exists.1 (hwhole.isSome_add? hpos hroom)
    exact ⟨t, ht, hwhole.isSome_toUtc?_of_add? hpos hvalid ht⟩

end Exist

/-! ## Calls that return -/

section Return

variable {request : ReceivedRequest} {key : String} {now : Instant} {s : Session}

/-- An answer to a request is given up only if it is while a response is issued, once there is an
instant at which it can be told of a refusal. -/
theorem exists_outcome {result : Except Fault FinishedResponse}
    (h : ((p.issueFresh request key now).run s).1 = Stop.ofFallible result)
    (hutc : now.wholeSeconds.toUtc?.isSome) :
    ∃ outcome, ((p.respond request key now).run s).1 = .ok outcome := by
  rw [respond_eq, Step.run_bind_of_ok (Step.run_catching_of_fallible h)]
  rcases p.run_settle request now result ((p.issueFresh request key now).run s).2 with
    ⟨hnone, -⟩ | ⟨outcome, hrun, -⟩
  · rw [hnone] at hutc
    cases hutc
  · exact ⟨outcome, hrun⟩

theorem respond_eq_outOfRange (h : ((p.issueFresh request key now).run s).1 = .error .outOfRange) :
    ((p.respond request key now).run s).1 = .error .outOfRange := by
  rw [respond_eq, Step.run_bind_of_error (Step.run_catching_of_outOfRange h)]

/-- No instant is computed for a user that is not known. -/
theorem run_issue_of_unknown (unknown : p.resolver.directory.identity? key = none)
    (request : ReceivedRequest) (solicited : Bool) (now : Instant) (s : Session) :
    ((p.issue request solicited key now).run s).1
      = Stop.ofFallible (.error (.authnFailed (username key))) := by
  rw [issue_of_unknown unknown]
  rfl

/-- Without a request, a response is issued as for one of the present instant. -/
theorem exists_result_authenticate
    (h : ∀ (request : ReceivedRequest) (s : Session), request.issueInstant = now →
      ∃ result, ((p.issue request false key now).run s).1 = Stop.ofFallible result)
    (audience : String) (s : Session) :
    ∃ result, ((p.authenticate key audience now).run s).1 = Stop.ofFallible result := by
  cases himplied : p.impliedRequest audience (s.upcomingId 0) now with
  | error cause =>
    rw [run_authenticate_of_refused himplied]
    exact ⟨.error cause, rfl⟩
  | ok request =>
    rw [(run_authenticate_of_implied himplied key).1]
    exact h request s.opened (id_issueInstant_of_impliedRequest himplied).2

end Return

/-- **With windows that fit, all calls return.** -/
theorem returns_of_fit (built : p.BuiltFrom c) (hc : c.ChecksFit)
    (ha : (∃ key identity, p.resolver.resolve key = .ok identity) → c.AnswersFit)
    {request : ReceivedRequest} {now : Instant} (hissued : request.issueInstant.Contemporary)
    (hnow : now.Contemporary) (key audience : String) (s : Session) :
    (∃ outcome, ((p.respond request key now).run s).1 = .ok outcome) ∧
      ∃ result, ((p.authenticate key audience now).run s).1 = Stop.ofFallible result := by
  rcases p.resolver.resolve_cases key with unknown | ⟨identity, known⟩
  · refine ⟨?_, exists_result_authenticate
      (fun request s _ => ⟨_, run_issue_of_unknown unknown request false now s⟩) audience s⟩
    have hchecked := checkFreshness_ne_outOfRange (isSome_add?_clockSkew built hc hnow)
      (exists_acceptedUntil_of_fit built hc hissued) request.id
    have hfresh : ∃ result, ((p.issueFresh request key now).run s).1 = Stop.ofFallible result := by
      rw [issueFresh]
      cases hcheck : p.checkFreshness request.id request.issueInstant now with
      | ok =>
        rw [Step.run_bind_of_ok (Step.run_attempt _ s)]
        exact ⟨_, run_issue_of_unknown unknown request true now s⟩
      | error stop =>
        rw [Step.run_bind_of_error (Step.run_attempt _ s)]
        cases stop with
        | outOfRange => exact absurd hcheck hchecked
        | refused cause => exact ⟨.error cause, rfl⟩
    obtain ⟨result, hresult⟩ := hfresh
    exact exists_outcome hresult hnow.wholeSeconds.isSome_toUtc?
  · have hfit := ha ⟨key, identity, known⟩
    constructor
    · rcases p.run_respond request key now s with ⟨hout, -⟩ | ⟨outcome, h, -⟩
      · exact absurd (inRange_of_fit built hc hfit hissued hnow) hout
      · exact ⟨outcome, h⟩
    · refine exists_result_authenticate (fun request s hinstant => ?_) audience s
      rcases p.run_issue request false key now s with ⟨hout, -⟩ | ⟨result, h, -⟩
      · rw [hinstant] at hout
        exact absurd (inRange_of_fit built hc hfit hnow hnow) hout
      · exact ⟨result, h⟩

/-! ## Only such windows will do -/

/-- The last instant of the year 2100, by the clock that is the furthest behind UTC. -/
def lastContemporary : Instant := ⟨4134074398999999999, -93599, by decide⟩

theorem contemporary_last : lastContemporary.Contemporary :=
  ⟨by decide, by decide, by decide⟩

/-- A request of that instant. -/
def lastRequest : ReceivedRequest :=
  ⟨"_r", "https://sp.example", "https://sp.example/acs", lastContemporary, none⟩

section Needed

/-- A window that may be added to the last instant of these years fits. -/
theorem le_spareSeconds {n : Nat} (h : (lastContemporary.add? (.ofConfigured n)).isSome) :
    n ≤ spareSeconds := by
  rw [Instant.isSome_add?_iff] at h
  rw [← Duration.nanoseconds_ofConfigured_le_iff (Nat.le_refl _)]
  simp only [Shown, lastContemporary, spareSeconds, endShown, nanosPerSecond] at h ⊢
  omega

theorem exists_aged {issued last : Instant} (h : p.acceptedUntil issued = .ok last) :
    ∃ aged, issued.add? p.maxRequestAge = some aged ∧ aged.add? p.window.clockSkew = some last := by
  rw [acceptedUntil] at h
  obtain ⟨aged, haged, hlast⟩ := Stop.exists_of_bind_eq_ok h
  exact ⟨aged, Stop.inRange_eq_ok_iff.mp haged, Stop.inRange_eq_ok_iff.mp hlast⟩

/-- If the last request of these years can be accepted for a while, the windows that it is checked
with fit. -/
theorem checksFit_of_acceptedUntil (built : p.BuiltFrom c) {last : Instant}
    (h : p.acceptedUntil lastContemporary = .ok last) : c.ChecksFit := by
  obtain ⟨aged, haged, hlast⟩ := exists_aged h
  rw [built.windows.1] at hlast
  rw [built.windows.2.2] at haged
  have hage := le_spareSeconds (by rw [Config.maxRequestAge] at haged; rw [haged]; rfl)
  have hshown := last.shown
  rw [Instant.nanoseconds_add? hlast, Instant.nanoseconds_add? haged, Instant.offset_add? hlast,
    Instant.offset_add? haged, Config.maxRequestAge, Duration.nanoseconds_ofConfigured hage]
    at hshown
  -- what is left to the skew, now that the age is known to fit
  have hskew : (Duration.ofConfigured c.clockSkewSecs).nanoseconds
      ≤ (spareSeconds - c.maxRequestAgeSecs : Nat) * nanosPerSecond := by
    simp only [Config.clockSkew, Shown, lastContemporary, spareSeconds, endShown, nanosPerSecond]
      at hshown hage ⊢
    omega
  rw [Duration.nanoseconds_ofConfigured_le_iff (Nat.sub_le _ _)] at hskew
  rw [Config.ChecksFit]
  omega

/-- A request of the present instant is fresh if it can be checked. -/
theorem checkFreshness_self (built : p.BuiltFrom c) {id : String} {now : Instant}
    (h : p.checkFreshness id now now ≠ .error .outOfRange) :
    p.checkFreshness id now now = .ok () := by
  have hskew : 0 ≤ p.window.clockSkew.nanoseconds := by
    rw [built.windows.1]
    exact Duration.nanoseconds_ofConfigured_nonneg _
  have hage : 0 ≤ p.maxRequestAge.nanoseconds := by
    rw [built.windows.2.2]
    exact Duration.nanoseconds_ofConfigured_nonneg _
  rcases p.checkFreshness_cases id now now with hout | ⟨hearly, -⟩ | ⟨-, hlate, -⟩ | ⟨-, hok⟩
  · exact absurd hout h
  · omega
  · rw [lastAccepted] at hlate
    omega
  · exact hok

/-- What was checked was compared with the last instant at which it is accepted. -/
theorem exists_acceptedUntil_of_checkFreshness {id : String} {now : Instant}
    (h : p.checkFreshness id now now = .ok ()) : ∃ last, p.acceptedUntil now = .ok last := by
  obtain ⟨latest, hlatest⟩ := Option.isSome_iff_exists.1 (isSome_of_checkFreshness h)
  have hfuture : ¬ latest < now := by
    rw [Instant.not_lt, Instant.le_iff, Instant.nanoseconds_add? hlatest]
    exact (fresh_of_checkFreshness h).1
  rcases p.acceptedUntil_cases now with hout | ⟨last, hlast, -⟩
  · rw [checkFreshness, hlatest] at h
    change (if latest < now then _ else p.acceptedUntil now >>= _) = _ at h
    rw [if_neg hfuture, hout] at h
    cases h
  · exact ⟨last, hlast⟩

/-- The end of an assertion is written, unless its issue cannot be. -/
theorem isSome_toUtc?_of_toElement {a : Assertion} {text : String}
    (hissued : a.issueInstant.write = .ok text) (h : a.toElement ≠ .error .outOfRange) :
    a.notOnOrAfter.toUtc?.isSome := by
  rcases hend : a.notOnOrAfter.toUtc? with _ | t
  · rw [Assertion.toElement, hissued] at h
    rcases a.notOnOrAfter.write_cases with ⟨-, hout⟩ | hrefused | ⟨written, hwritten⟩
    · exact absurd (by rw [hout]; rfl) h
    · rw [Instant.write, hend] at hrefused
      cases hrefused
    · rw [Instant.write, hend] at hwritten
      cases hwritten
  · rfl

/-- Once the request ID is consumed, an assertion is built and written, if there is somebody to have
it and its ID is not used. -/
theorem Completes.exists_assertion {request : ReceivedRequest} {solicited : Bool}
    {identity : ResolvedIdentity} {now : Instant} {cache final : ReplayCache} {ids : Nat → String}
    {result : Except Fault FinishedResponse}
    (h : p.Completes request solicited identity now cache ids result final)
    (addressed : isBlankText request.issuer = false)
    (unused : cache.contains (ids 0) now = false) :
    ∃ assertion, p.assertionFor request solicited identity now (ids 0) (ids 1) = .ok assertion ∧
      assertion.toElement ≠ .error .outOfRange := by
  cases h with
  | forNobody blank =>
    rw [addressed] at blank
    cases blank
  | replayed _ used =>
    rw [unused] at used
    cases used
  | issued _ _ built _ delivered => exact ⟨_, built, delivered.toElement_ne⟩

/-- If the last request of these years is answered and its user is known, the windows that are
needed for the answer fit. -/
theorem answersFit_of_respond (built : p.BuiltFrom c) {key : String} {identity : ResolvedIdentity}
    (known : p.resolver.resolve key = .ok identity)
    (checked : p.checkFreshness lastRequest.id lastContemporary lastContemporary = .ok ())
    (h : ((p.respond lastRequest key lastContemporary).run (.start fun _ => 0)).1
      ≠ .error .outOfRange) : c.AnswersFit := by
  -- the ID is remembered until an instant that exists
  have hheld : ∃ expiry, p.rememberedUntil lastRequest lastContemporary = .ok expiry := by
    rcases p.examine_reports lastRequest key lastContemporary with
      ⟨hnone, -⟩ | ⟨-, _, hexamine⟩ | ⟨-, expiry, -, hheld, -, -⟩
    · rw [Resolver.resolve, hnone] at known
      cases known
    · refine absurd (respond_eq_outOfRange ?_) h
      have hcheck := Step.run_attempt (.ok ()) (Session.start fun _ => 0)
      rw [issueFresh, issue_eq, show p.checkFreshness lastRequest.id lastRequest.issueInstant
          lastContemporary = .ok () from checked, Step.run_bind_of_ok hcheck,
        Step.run_bind_of_error (hexamine _)]
    · exact ⟨expiry, hheld⟩
  obtain ⟨expiry, hheld⟩ := hheld
  have hwindow := isSome_of_rememberedUntil hheld
  rw [built.windows.2.1] at hwindow
  refine ⟨le_spareSeconds hwindow, ?_⟩
  -- and then an assertion is built and written
  obtain ⟨events, hadmission⟩ :=
    run_admission (s := Session.start fun _ => 0) checked known hheld rfl
  rcases p.run_complete lastRequest true identity lastContemporary
    (((Session.start fun _ => 0).reporting events).withCache
      (ReplayCache.empty.record lastRequest.id expiry)) with ⟨-, hout⟩ | ⟨result, -, hcompletes⟩
  · refine absurd ?_ h
    rw [respond_eq_admission]
    refine congrArg Prod.fst (Step.run_bind_of_error (Step.run_catching_of_outOfRange ?_) _)
    rw [Step.run_bind_of_ok hadmission]
    exact hout
  have hunused : (ReplayCache.empty.record lastRequest.id expiry).contains (messageId 0)
      lastContemporary = false := by
    have hne : messageId 0 ≠ lastRequest.id := by decide +kernel
    rw [ReplayCache.contains_record, if_neg hne]
    rfl
  obtain ⟨assertion, hbuilt, hwritten⟩ := hcompletes.exists_assertion (by decide) hunused
  obtain ⟨hissued, hend⟩ := instants_of_assertionFor hbuilt
  have hwhole : lastContemporary.wholeSeconds.write = .ok "2101-01-02T01:59:58Z" := by
    decide +kernel
  have hutc := isSome_toUtc?_of_toElement (by rw [hissued]; exact hwhole) hwritten
  rw [Instant.isSome_toUtc?_iff, Instant.nanoseconds_add? hend, built.windows.1] at hutc
  have hvalid : c.assertionValiditySecs ≤ spareSeconds - widestOffset := by
    refine Duration.le_of_nanoseconds_ofConfigured_lt (Nat.sub_le _ _) ?_
    simp only [Shown, lastContemporary, Instant.wholeSeconds, Instant.subsecond, spareSeconds,
      widestOffset, endShown, nanosPerSecond, Config.assertionValidity] at hutc ⊢
    omega
  simp only [spareSeconds, widestOffset] at hvalid ⊢
  omega

end Needed

/-- **When no call is given up.**  For the instants of these years, all calls of a provider return
exactly if the windows of its configuration fit: those that a request is checked with, and if there
is a user at all those that an answer needs. -/
theorem returns_iff (built : p.BuiltFrom c) :
    (∀ (request : ReceivedRequest) (key audience : String) (now : Instant) (s : Session),
      request.issueInstant.Contemporary → now.Contemporary →
        (∃ outcome, ((p.respond request key now).run s).1 = .ok outcome) ∧
          ∃ result, ((p.authenticate key audience now).run s).1 = Stop.ofFallible result) ↔
      c.ChecksFit ∧
        ((∃ key identity, p.resolver.resolve key = .ok identity) → c.AnswersFit) := by
  constructor
  · intro h
    have hreturns : ∀ key,
        ((p.respond lastRequest key lastContemporary).run (.start fun _ => 0)).1
          ≠ .error .outOfRange := by
      intro key hout
      obtain ⟨⟨outcome, hok⟩, -⟩ := h lastRequest key "" lastContemporary (.start fun _ => 0)
        contemporary_last contemporary_last
      rw [hout] at hok
      cases hok
    have checked : p.checkFreshness lastRequest.id lastContemporary lastContemporary = .ok () := by
      refine checkFreshness_self built fun hout => hreturns "" (respond_eq_outOfRange ?_)
      rw [issueFresh, show p.checkFreshness lastRequest.id lastRequest.issueInstant
          lastContemporary = .error .outOfRange from hout,
        Step.run_bind_of_error (Step.run_attempt (.error .outOfRange) _)]
    obtain ⟨last, hlast⟩ := exists_acceptedUntil_of_checkFreshness checked
    refine ⟨checksFit_of_acceptedUntil built hlast, ?_⟩
    rintro ⟨key, identity, known⟩
    exact answersFit_of_respond built known checked (hreturns key)
  · rintro ⟨hc, ha⟩ request key audience now s hissued hnow
    exact returns_of_fit built hc ha hissued hnow key audience s

theorem contemporary_noon : noon.Contemporary := ⟨by decide, by decide, by decide⟩

/-- The windows that go without saying fit. -/
theorem returns_solo :
    solo.BuiltFrom soloConfig ∧
      (∃ outcome, ((solo.respond soloRequest "user1:password" noon).run (.start fun _ => 0)).1
        = .ok outcome) ∧
      ∃ result, ((solo.authenticate "user1:password" "https://sp.example" noon).run
        (.start fun _ => 0)).1 = Stop.ofFallible result :=
  ⟨builtFrom_solo, (returns_iff builtFrom_solo).2
    ⟨by unfold Config.ChecksFit; decide, fun _ => ⟨by decide, by decide⟩⟩ soloRequest
    "user1:password" "https://sp.example" noon (.start fun _ => 0) contemporary_noon
    contemporary_noon⟩

/-- A configuration with which assertions are valid for as long as its numbers can say. -/
def eternalConfig : Config :=
  { soloConfig with
    assertionValiditySecs := 18446744073709551615
    replayWindowSecs := some 300 }

/-- The provider of `eternalConfig`. -/
def eternal : IdentityProvider :=
  { solo with window := ⟨eternalConfig.assertionValidity, .seconds 60⟩ }

theorem builtFrom_eternal : eternal.BuiltFrom eternalConfig :=
  ⟨blankKey, .unavailable, eternal, .default, rfl, rfl⟩

/-- No assertion can be built that ends so late. -/
theorem assertionFor_eternal (identity : ResolvedIdentity) (id newSession : String) :
    eternal.assertionFor soloRequest true identity noon id newSession = .error .outOfRange := by
  have hnone : noon.wholeSeconds.add? eternal.window.validity = none := by decide
  rw [assertionFor]
  rcases Assertion.build_cases eternal.entityId (eternal.subject identity) identity.released
    [soloRequest.issuer] eternal.window ⟨eternal.authnContextClass, some noon, none⟩ noon id
    newSession with ⟨hblank, -⟩ | ⟨-, -, h⟩ | ⟨-, _, _, -, hafter, -⟩
  · exact absurd hblank (by decide)
  · rw [h]
    rfl
  · rw [hnone] at hafter
    cases hafter

/-- **A request can be used up without an answer.**  A configuration is accepted with which the
answer to a request is given up for the range of years; by then the ID of the request is consumed,
so that it cannot be answered any more. -/
theorem respond_eternal :
    eternal.BuiltFrom eternalConfig ∧ soloRequest.issueInstant.Contemporary ∧
      noon.Contemporary ∧
      ((eternal.respond soloRequest "user1:password" noon).run (.start fun _ => 0)).1
        = .error .outOfRange ∧
      ((eternal.respond soloRequest "user1:password" noon).run
        (.start fun _ => 0)).2.cache.contains soloRequest.id noon = true := by
  have checked : eternal.checkFreshness soloRequest.id soloRequest.issueInstant noon = .ok () := by
    decide
  have held : eternal.rememberedUntil soloRequest noon
      = .ok sixPastNoon := by decide
  obtain ⟨identity, known⟩ : ∃ identity, eternal.resolver.resolve "user1:password" = .ok identity :=
    resolve_solo
  obtain ⟨events, hadmission⟩ :=
    run_admission (s := Session.start fun _ => 0) checked known held rfl
  obtain ⟨t, hprepare, -⟩ := eternal.run_prepare soloRequest true identity noon
    (((Session.start fun _ => 0).reporting events).withCache
      ((Session.start fun _ => 0).cache.record soloRequest.id sixPastNoon))
  rw [assertionFor_eternal] at hprepare
  refine ⟨builtFrom_eternal, contemporary_noon, contemporary_noon, ?_, ?_⟩
  · rw [respond_eq_admission]
    refine congrArg Prod.fst (Step.run_bind_of_error (Step.run_catching_of_outOfRange ?_) _)
    rw [Step.run_bind_of_ok hadmission, complete, Step.run_bind_of_error hprepare]
  · have admitted : eternal.Admits soloRequest "user1:password" noon (.start fun _ => 0) :=
      ⟨identity, by rw [hadmission]⟩
    obtain ⟨expiry, -, hns, -, -, hkept⟩ := admitted.cache_respond
    rw [ReplayCache.contains_eq_decide (hkept (by decide +kernel)), decide_eq_true_eq,
      Instant.lt_iff, hns]
    decide

end IdentityProvider
end WebSso
