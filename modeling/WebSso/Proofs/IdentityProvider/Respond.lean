import WebSso.Proofs.IdentityProvider.Issue

/-!
# What answering a request does

A request is answered in one of a few ways, and it matters which of them leave a trace: a login that
failed must not use the request up, and a signature that failed must have.  This file lists the
ways, in the order in which they are tried, each with the cache that it leaves.

## What is here

* `IdentityProvider.settle`, what is made of an issued response or of the lack of one, and
  `IdentityProvider.respond_eq`;
* `IdentityProvider.Responds`, how answering a request ends and the cache it leaves;
* `IdentityProvider.respond_effect`: this is what it does, and it looks at nothing else.
-/

set_option autoImplicit false
namespace WebSso
namespace IdentityProvider

/-! ## Telling of a refusal -/

/-- The outcome of a flow, with a response that tells of it if it is a refusal. -/
def settle (p : IdentityProvider) (request : ReceivedRequest) (now : Instant) :
    Except Fault FinishedResponse → Step FlowOutcome
  | .ok response => pure (.success response)
  | .error cause => do
    Step.report (FlowState.transition .requestReceived .rejected request.id)
    match ← Step.catching (p.errorResponse request cause now) with
    | .ok response => return .rejected cause (some response)
    | .error unsigned =>
      Step.report (.warn "could not sign error response" [("error", .text unsigned.message)])
      return .rejected cause none

/-- The response to a request, if the request is fresh. -/
def issueFresh (p : IdentityProvider) (request : ReceivedRequest) (key : String) (now : Instant) :
    Step FinishedResponse :=
  Step.attempt (p.checkFreshness request.id request.issueInstant now) >>= fun _ =>
    p.issue request true key now

/-- A request is answered by issuing a response if it is fresh, and telling how that went. -/
theorem respond_eq (p : IdentityProvider) (request : ReceivedRequest) (key : String)
    (now : Instant) :
    p.respond request key now
      = Step.catching (p.issueFresh request key now) >>= p.settle request now := by
  rw [respond]
  refine congrArg _ (funext fun issued => ?_)
  cases issued with
  | ok response => rfl
  | error cause => rfl

theorem errorResponse_blind (p : IdentityProvider) (request : ReceivedRequest) (cause : Fault)
    (now : Instant) : (p.errorResponse request cause now).Blind :=
  Step.Blind.drawId.bind fun _ => p.finish_blind _ true

theorem settle_blind (p : IdentityProvider) (request : ReceivedRequest) (now : Instant)
    (issued : Except Fault FinishedResponse) : (p.settle request now issued).Blind := by
  cases issued with
  | ok response => exact (Step.Reports.pure _).blind
  | error cause =>
    refine (Step.Reports.report _).blind.bind fun _ => ?_
    refine (p.errorResponse_blind request cause now).catching.bind fun told => ?_
    cases told with
    | ok response => exact (Step.Reports.pure _).blind
    | error unsigned =>
      exact (Step.Reports.report _).blind.bind fun _ => (Step.Reports.pure _).blind

/-- The response that tells of a refusal is finished or refused, unless its instant leaves the
range. -/
theorem run_errorResponse (p : IdentityProvider) (request : ReceivedRequest) (cause : Fault)
    (now : Instant) (s : Session) :
    (now.wholeSeconds.toUtc? = none ∧
      ((p.errorResponse request cause now).run s).1 = .error .outOfRange) ∨
    ∃ told, ((p.errorResponse request cause now).run s).1 = Stop.ofFallible told := by
  rw [errorResponse, Step.run_bind_of_ok (Step.run_drawId s)]
  rcases p.finish_cases ⟨messageId (s.draws s.drawn), p.entityId, now.wholeSeconds,
    some request.acsUrl, some request.id, cause.status, none⟩ true with ⟨hnone, h⟩ | ⟨told, h⟩
  · exact Or.inl ⟨hnone, h.fst_run _⟩
  · exact Or.inr ⟨told, h.fst_run _⟩

/-- **A refusal stays what it is.**  What is told of it does not change it; only the range can be
left. -/
theorem run_settle (p : IdentityProvider) (request : ReceivedRequest) (now : Instant)
    (issued : Except Fault FinishedResponse) (s : Session) :
    (now.wholeSeconds.toUtc? = none ∧
      ((p.settle request now issued).run s).1 = .error .outOfRange) ∨
    ∃ outcome, ((p.settle request now issued).run s).1 = .ok outcome ∧ outcome.result = issued := by
  cases issued with
  | ok response => exact Or.inr ⟨.success response, rfl, rfl⟩
  | error cause =>
    rw [settle, Step.run_bind_of_ok (Step.run_report _ s)]
    rcases p.run_errorResponse request cause now
      (s.reporting [FlowState.transition .requestReceived .rejected request.id]) with
      ⟨hnone, h⟩ | ⟨told, h⟩
    · rw [Step.run_bind_of_error (Step.run_catching_of_outOfRange h)]
      exact Or.inl ⟨hnone, rfl⟩
    · rw [Step.run_bind_of_ok (Step.run_catching_of_fallible h)]
      cases told with
      | ok response => exact Or.inr ⟨.rejected cause (some response), rfl, rfl⟩
      | error unsigned => exact Or.inr ⟨.rejected cause none, rfl, rfl⟩

/-- An outcome without a result is a rejection. -/
theorem exists_eq_rejected {outcome : FlowOutcome} {cause : Fault}
    (h : outcome.result = .error cause) : ∃ response, outcome = .rejected cause response := by
  cases outcome with
  | success response => cases h
  | rejected other response =>
    cases h
    exact ⟨response, rfl⟩

/-! ## The ways in which a request is answered -/

/-- How answering a request ends: from a cache, with the IDs that are drawn, to a result and a
cache.  Each way presumes that those before it do not apply. -/
inductive Responds (p : IdentityProvider) (request : ReceivedRequest) (key : String)
    (now : Instant) (c : ReplayCache) (ids : Nat → String) :
    Except Fault FinishedResponse → ReplayCache → Prop where
  /-- The request is from the future: nothing is consumed. -/
  | fromFuture
      (early : now.nanoseconds + p.window.clockSkew.nanoseconds
        < request.issueInstant.nanoseconds) :
      Responds p request key now c ids
        (.error (.clockSkewExceeded ("request " ++ request.id ++ " issued in the future"))) c
  /-- The request is too old: nothing is consumed. -/
  | tooOld
      (notEarly : request.issueInstant.nanoseconds
        ≤ now.nanoseconds + p.window.clockSkew.nanoseconds)
      (late : p.lastAccepted request.issueInstant < now.nanoseconds) :
      Responds p request key now c ids
        (.error (.clockSkewExceeded ("request " ++ request.id ++ " is too old"))) c
  /-- The request is fresh, so that a response is issued or not. -/
  | fresh {result : Except Fault FinishedResponse} {final : ReplayCache}
      (fresh : p.Fresh request.issueInstant now)
      (issued : p.Issues request true key now c ids result final) :
      Responds p request key now c ids result final

/-- The entries of other IDs stay as they are. -/
theorem Responds.expiry?_eq {p : IdentityProvider} {request : ReceivedRequest} {key : String}
    {now : Instant} {c final : ReplayCache} {ids : Nat → String}
    {result : Except Fault FinishedResponse} (h : p.Responds request key now c ids result final)
    {id : String} (hrequest : id ≠ request.id) (hid : id ≠ ids 0) :
    final.expiry? id = c.expiry? id := by
  cases h with
  | fromFuture => rfl
  | tooOld => rfl
  | fresh _ issued => exact issued.expiry?_eq hrequest hid

/-- For a request that is fresh, a response is issued or not. -/
theorem Responds.issues {p : IdentityProvider} {request : ReceivedRequest} {key : String}
    {now : Instant} {c final : ReplayCache} {ids : Nat → String}
    {result : Except Fault FinishedResponse} (h : p.Responds request key now c ids result final)
    (fresh : p.Fresh request.issueInstant now) :
    p.Issues request true key now c ids result final := by
  cases h with
  | fromFuture early => exact absurd fresh.1 (Int.not_le.2 early)
  | tooOld _ late => exact absurd fresh.2 (Int.not_le.2 late)
  | fresh _ issued => exact issued

/-- A request that is fresh, and whose user is known, is refused if its ID is remembered. -/
theorem Responds.eq_replayed {p : IdentityProvider} {request : ReceivedRequest} {key : String}
    {now : Instant} {c final : ReplayCache} {ids : Nat → String}
    {result : Except Fault FinishedResponse} (h : p.Responds request key now c ids result final)
    (fresh : p.Fresh request.issueInstant now)
    (known : ∃ identity, p.resolver.resolve key = .ok identity)
    (used : c.contains request.id now = true) : result = .error (.replayDetected request.id) := by
  cases h.issues fresh with
  | unknownUser unknown =>
    obtain ⟨identity, hknown⟩ := known
    rw [Resolver.resolve_of_unknown unknown] at hknown
    cases hknown
  | replayed => rfl
  | admitted _ unused =>
    rw [used] at unused
    cases unused

/-- What answering does before it is settled what to tell. -/
theorem run_issueFresh (p : IdentityProvider) (request : ReceivedRequest) (key : String)
    (now : Instant) (s : Session) :
    (¬ p.InRange request.issueInstant now ∧
      ((p.issueFresh request key now).run s).1 = .error .outOfRange) ∨
    ∃ result, ((p.issueFresh request key now).run s).1 = Stop.ofFallible result ∧
      p.Responds request key now s.cache s.upcomingId result
        ((p.issueFresh request key now).run s).2.cache := by
  rw [issueFresh]
  rcases p.checkFreshness_cases request.id request.issueInstant now with
    h | ⟨early, h⟩ | ⟨notEarly, late, h⟩ | ⟨hfresh, h⟩
  · refine Or.inl ⟨fun hrange => hrange.checkFreshness_ne request.id h, ?_⟩
    rw [h, Step.run_bind_of_error (Step.run_attempt (.error .outOfRange) s)]
  · rw [h, Step.run_bind_of_error (Step.run_attempt (Stop.refuse _) s)]
    exact Or.inr ⟨_, rfl, .fromFuture early⟩
  · rw [h, Step.run_bind_of_error (Step.run_attempt (Stop.refuse _) s)]
    exact Or.inr ⟨_, rfl, .tooOld notEarly late⟩
  · rw [h, Step.run_bind_of_ok (Step.run_attempt (.ok ()) s)]
    rcases p.run_issue request true key now s with hout | ⟨result, hrun, hissues⟩
    · exact Or.inl hout
    · exact Or.inr ⟨result, hrun, .fresh hfresh hissues⟩

/-- **What answering does.**  Unless an instant leaves the range, a request is answered in one of
the ways of `Responds`. -/
theorem run_respond (p : IdentityProvider) (request : ReceivedRequest) (key : String)
    (now : Instant) (s : Session) :
    (¬ p.InRange request.issueInstant now ∧
      ((p.respond request key now).run s).1 = .error .outOfRange) ∨
    ∃ outcome, ((p.respond request key now).run s).1 = .ok outcome ∧
      p.Responds request key now s.cache s.upcomingId outcome.result
        ((p.respond request key now).run s).2.cache := by
  rw [respond_eq]
  rcases p.run_issueFresh request key now s with ⟨hrange, h⟩ | ⟨result, h, hresponds⟩
  · rw [Step.run_bind_of_error (Step.run_catching_of_outOfRange h)]
    exact Or.inl ⟨hrange, rfl⟩
  rw [Step.run_bind_of_ok (Step.run_catching_of_fallible h),
    (p.settle_blind request now _).cache_eq]
  rcases p.run_settle request now result ((p.issueFresh request key now).run s).2 with
    ⟨hnone, hrun⟩ | ⟨outcome, hrun, hresult⟩
  · refine Or.inl ⟨fun hrange => ?_, hrun⟩
    have hutc := hrange.written
    rw [hnone] at hutc
    exact Bool.false_ne_true hutc
  · exact Or.inr ⟨outcome, hrun, hresult ▸ hresponds⟩

/-- Answering looks at two entries of the cache, that of the request ID and that of the assertion
ID, and only at whether they are remembered. -/
theorem respond_alikeWith {p : IdentityProvider} {request : ReceivedRequest} {now : Instant}
    {s : Session} {c : ReplayCache}
    (hrequest : c.contains request.id now = s.cache.contains request.id now)
    (hassertion : c.contains (s.upcomingId 0) now = s.cache.contains (s.upcomingId 0) now)
    (key : String) : (p.respond request key now).AlikeWith s c := by
  rw [respond_eq]
  have hissue : (p.issueFresh request key now).AlikeWith s c := by
    refine (Step.Reports.attempt rfl).blind.alikeWith_bind fun _ _ => ?_
    rw [Step.run_attempt]
    exact issue_alikeWith hrequest hassertion true key
  exact hissue.catching.bind_blind (p.settle_blind request now)

/-- **What a request does, and what it does not.**  If no instant leaves the range, a request is
answered.  Whenever it is, it is in one of the ways of `Responds`: the first of its refusals that
applies, with the cache that goes with it.  No entry of the cache is changed or looked at but those
of the request ID and of the assertion ID that is drawn, and of these it is only looked at whether
they are remembered. -/
theorem respond_effect (p : IdentityProvider) (request : ReceivedRequest) (key : String)
    (now : Instant) (s : Session) :
    (p.InRange request.issueInstant now →
      ∃ outcome, ((p.respond request key now).run s).1 = .ok outcome) ∧
    (∀ outcome, ((p.respond request key now).run s).1 = .ok outcome →
      p.Responds request key now s.cache s.upcomingId outcome.result
        ((p.respond request key now).run s).2.cache ∧
      ∀ id, id ≠ request.id → id ≠ s.upcomingId 0 →
        ((p.respond request key now).run s).2.cache.expiry? id = s.cache.expiry? id) ∧
    ∀ c : ReplayCache, c.contains request.id now = s.cache.contains request.id now →
      c.contains (s.upcomingId 0) now = s.cache.contains (s.upcomingId 0) now →
      ((p.respond request key now).run (s.withCache c)).1
        = ((p.respond request key now).run s).1 := by
  refine ⟨fun hrange => ?_, fun outcome houtcome => ?_, fun c hrequest hassertion => ?_⟩
  · rcases p.run_respond request key now s with ⟨hout, -⟩ | ⟨outcome, h, -⟩
    · exact absurd hrange hout
    · exact ⟨outcome, h⟩
  · rcases p.run_respond request key now s with ⟨-, h⟩ | ⟨other, h, hresponds⟩
    · rw [houtcome] at h
      cases h
    · rw [houtcome] at h
      cases h
      exact ⟨hresponds, fun id hrequest hid => hresponds.expiry?_eq hrequest hid⟩
  · exact (respond_alikeWith hrequest hassertion key).fst_eq

/-- A configuration with one user, with the windows that go without saying. -/
def soloConfig : Config :=
  { Config.defaults with
    entityId := "https://idp.example"
    identities := [⟨"user1:password", .ofList [("uid", ["u1"])]⟩] }

/-- A key of which nothing is known. -/
def blankKey : SigningKey := ⟨.irregular, ⟨[], none, none, none⟩⟩

/-- The provider of `soloConfig`, which cannot sign. -/
def solo : IdentityProvider where
  entityId := "https://idp.example"
  ssoUrl := none
  resolver := ⟨{ identities := soloConfig.identities, serviceProviders := [] }, []⟩
  denied := .default
  options := .default
  key := blankKey
  signer := .unavailable
  window := .default
  replayWindow := .seconds 300
  maxRequestAge := .seconds 300
  signResponse := true
  nameId := .default
  authnContextClass := passwordProtectedTransport

theorem ofConfig_soloConfig : ofConfig soloConfig blankKey .unavailable = .ok solo := rfl

/-- 2030-01-01T12:00:00Z. -/
def noon : Instant := ⟨1893499200000000000, 0, by decide⟩

/-- A request of noon. -/
def soloRequest : ReceivedRequest :=
  ⟨"_r", "https://sp.example", "https://sp.example/acs", noon, none⟩

theorem inRange_solo : solo.InRange noon noon where
  latestIssue := by decide
  lastAnswer := ⟨⟨1893499500000000000, 0, by decide⟩, by decide, by decide⟩
  remembered := by decide
  notBefore := ⟨⟨1893499140000000000, 0, by decide⟩, by decide, by decide⟩
  notOnOrAfter := ⟨⟨1893499500000000000, 0, by decide⟩, by decide, by decide⟩
  written := by decide

/-- A request is answered at the instant of its issue, and an entry of another ID plays no part. -/
theorem respond_effect_solo :
    solo.InRange soloRequest.issueInstant noon ∧
    ∃ outcome, ((solo.respond soloRequest "user1:password" noon).run (.start fun _ => 0)).1
        = .ok outcome ∧
      solo.Responds soloRequest "user1:password" noon .empty (Session.start fun _ => 0).upcomingId
        outcome.result
        ((solo.respond soloRequest "user1:password" noon).run (.start fun _ => 0)).2.cache ∧
      ((solo.respond soloRequest "user1:password" noon).run
          (.start fun _ => 0)).2.cache.expiry? "_x" = none ∧
      ((solo.respond soloRequest "user1:password" noon).run
          ((Session.start fun _ => 0).withCache (ReplayCache.empty.record "_x" noon))).1
        = .ok outcome := by
  obtain ⟨hreturns, hresponds, hframe⟩ :=
    respond_effect solo soloRequest "user1:password" noon (.start fun _ => 0)
  obtain ⟨outcome, houtcome⟩ := hreturns inRange_solo
  obtain ⟨hway, helsewhere⟩ := hresponds outcome houtcome
  refine ⟨inRange_solo, outcome, houtcome, hway, ?_, ?_⟩
  · exact helsewhere "_x" (by decide) (by decide +kernel)
  · rw [hframe (ReplayCache.empty.record "_x" noon) (by decide) (by decide +kernel)]
    exact houtcome

end IdentityProvider
end WebSso
