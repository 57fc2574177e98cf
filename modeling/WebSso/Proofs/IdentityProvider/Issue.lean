import WebSso.Proofs.Assertion.Build
import WebSso.Proofs.Flow.Step
import WebSso.Proofs.IdentityProvider.Freshness

/-!
# Issuing, stage by stage

Two IDs are consumed while a response is issued, that of the request and that of the assertion.
They cut the work into three stages, none of which looks at the cache.  This file states the work
that way and says how each stage ends, so that what issuing does to the cache can be read off.

## What is here

* `IdentityProvider.examine`, `IdentityProvider.prepare` and `IdentityProvider.deliver`, the stages,
  and `IdentityProvider.issue_eq`, which puts them together with the two IDs between them;
* `IdentityProvider.issue_eq_grant` and `IdentityProvider.cache_issue_eq_grant`, by which what comes
  behind the grant of an assertion leaves the used IDs alone;
* `IdentityProvider.Delivers`, how the last stage ends, `IdentityProvider.Completes`, how all ends
  that comes after the request ID, and `IdentityProvider.Issues`, how issuing ends, the latter two
  with the cache they leave;
* `IdentityProvider.run_issue`: unless an instant leaves the range, this is what issuing does;
* `IdentityProvider.issue_alikeWith`, which entries of the cache it looks at, and
  `IdentityProvider.issue_usesAt`, when it does.
-/

set_option autoImplicit false
namespace WebSso

/-- A key belongs to nobody, or to the user it resolves to. -/
theorem Resolver.resolve_cases (r : Resolver) (key : String) :
    r.directory.identity? key = none ∨ ∃ identity, r.resolve key = .ok identity := by
  rw [resolve]
  cases r.directory.identity? key with
  | none => exact Or.inl rfl
  | some record => exact Or.inr ⟨_, rfl⟩

theorem Resolver.resolve_of_unknown {r : Resolver} {key : String}
    (h : r.directory.identity? key = none) :
    r.resolve key = .error (.unknownIdentity (username key)) := by
  rw [resolve, h]

namespace IdentityProvider

/-! ## The stages -/

/-- The user of a key, and until when the ID of their request is remembered. -/
def examine (p : IdentityProvider) (request : ReceivedRequest) (key : String) (now : Instant) :
    Step (ResolvedIdentity × Instant) := do
  let identity ← p.authenticated key
  Step.report (FlowState.transition .requestReceived .identityResolved request.id)
  let expiry ← Step.attempt (p.rememberedUntil request now)
  return (identity, expiry)

/-- The assertion about a user, with an ID of its own. -/
def prepare (p : IdentityProvider) (request : ReceivedRequest) (solicited : Bool)
    (identity : ResolvedIdentity) (now : Instant) : Step Assertion := do
  Step.report? (p.fallbackEvent? identity)
  let id ← Step.drawId
  let newSession ← Step.drawId
  Step.attempt (p.assertionFor request solicited identity now id newSession)

/-- What the response says that carries a signed assertion. -/
def responseFor (p : IdentityProvider) (request : ReceivedRequest) (solicited : Bool)
    (assertion : Assertion) (signed : Element) (id : String) : ResponseDocument where
  id
  issuer := p.entityId
  issueInstant := assertion.issueInstant
  destination := some request.acsUrl
  inResponseTo := if solicited then some request.id else none
  status := .success
  assertion := some signed

/-- The response with an assertion, signed. -/
def deliver (p : IdentityProvider) (request : ReceivedRequest) (solicited : Bool)
    (assertion : Assertion) : Step FinishedResponse := do
  Step.report (FlowState.transition .identityResolved .assertionIssued request.id)
  let element ← Step.attempt assertion.toElement
  let signed ← p.sealed element
  let id ← Step.drawId
  let response ← p.finish (p.responseFor request solicited assertion signed.element id)
    p.signResponse
  Step.report (FlowState.transition .assertionIssued .responseSigned request.id)
  Step.report (FlowState.transition .responseSigned .success request.id)
  Step.report (issuedEvent request assertion)
  return { response with assertionId := some assertion.id }

/-- The last stage behind its first report. -/
def dispatch (p : IdentityProvider) (request : ReceivedRequest) (solicited : Bool)
    (assertion : Assertion) : Step FinishedResponse := do
  let element ← Step.attempt assertion.toElement
  let signed ← p.sealed element
  let id ← Step.drawId
  let response ← p.finish (p.responseFor request solicited assertion signed.element id)
    p.signResponse
  Step.report (FlowState.transition .assertionIssued .responseSigned request.id)
  Step.report (FlowState.transition .responseSigned .success request.id)
  Step.report (issuedEvent request assertion)
  return { response with assertionId := some assertion.id }

/-- All that comes after the request ID is consumed. -/
def complete (p : IdentityProvider) (request : ReceivedRequest) (solicited : Bool)
    (identity : ResolvedIdentity) (now : Instant) : Step FinishedResponse :=
  p.prepare request solicited identity now >>= fun assertion =>
    Step.consume assertion.id assertion.notOnOrAfter now >>= fun _ =>
      p.deliver request solicited assertion

/-- **The stages make up all of issuing**, with an ID consumed between one and the next. -/
theorem issue_eq (p : IdentityProvider) (request : ReceivedRequest) (solicited : Bool)
    (key : String) (now : Instant) :
    p.issue request solicited key now
      = p.examine request key now >>= fun e =>
          Step.consume request.id e.2 now >>= fun _ => p.complete request solicited e.1 now := by
  simp only [issue, grant, examine, complete, prepare, deliver, responseFor, bind_assoc, pure_bind]

/-- Of all stages, the last one is what comes once an assertion is granted. -/
theorem issue_eq_grant (p : IdentityProvider) (request : ReceivedRequest) (solicited : Bool)
    (key : String) (now : Instant) :
    p.issue request solicited key now
      = p.grant request solicited key now >>= p.dispatch request solicited := rfl

/-! ## The first stage -/

theorem authenticated_of_unknown {p : IdentityProvider} {key : String}
    (h : p.resolver.directory.identity? key = none) :
    (p.authenticated key).Reports (.error (.refused (.authnFailed (username key)))) := by
  rw [authenticated, Resolver.resolve_of_unknown h]
  exact Step.Reports.attempt rfl

theorem authenticated_of_known {p : IdentityProvider} {key : String} {identity : ResolvedIdentity}
    (h : p.resolver.resolve key = .ok identity) : (p.authenticated key).Reports (.ok identity) := by
  rw [authenticated, h]
  exact (Step.Reports.report identity.event).bind (Step.Reports.pure identity)

theorem examine_of_unknown {p : IdentityProvider} {key : String}
    (unknown : p.resolver.directory.identity? key = none) (request : ReceivedRequest)
    (now : Instant) :
    (p.examine request key now).Reports (.error (.refused (.authnFailed (username key)))) :=
  (authenticated_of_unknown unknown).bind_error _

theorem examine_of_known {p : IdentityProvider} {request : ReceivedRequest} {key : String}
    {now expiry : Instant} {identity : ResolvedIdentity}
    (known : p.resolver.resolve key = .ok identity)
    (h : p.rememberedUntil request now = .ok expiry) :
    (p.examine request key now).Reports (.ok (identity, expiry)) := by
  refine (authenticated_of_known known).bind ((Step.Reports.report _).bind ?_)
  exact (Step.Reports.attempt h).bind (Step.Reports.pure _)

/-- **How the first stage ends.**  The user may be unknown, and then an instant may leave the
range. -/
theorem examine_reports (p : IdentityProvider) (request : ReceivedRequest) (key : String)
    (now : Instant) :
    (p.resolver.directory.identity? key = none ∧
      (p.examine request key now).Reports (.error (.refused (.authnFailed (username key))))) ∨
    (¬ p.InRange request.issueInstant now ∧
      (p.examine request key now).Reports (.error .outOfRange)) ∨
    ∃ identity expiry, p.resolver.resolve key = .ok identity ∧
      p.rememberedUntil request now = .ok expiry ∧
      expiry.nanoseconds = p.heldUntil request.issueInstant now ∧
      (p.examine request key now).Reports (.ok (identity, expiry)) := by
  rcases p.resolver.resolve_cases key with hnone | ⟨identity, hsome⟩
  · exact Or.inl ⟨hnone, examine_of_unknown hnone request now⟩
  refine Or.inr ?_
  rcases p.rememberedUntil_cases request now with h | ⟨expiry, h, hheld⟩
  · refine Or.inl ⟨fun hrange => hrange.rememberedUntil_ne h, ?_⟩
    refine (authenticated_of_known hsome).bind ((Step.Reports.report _).bind ?_)
    exact (Step.Reports.attempt h).bind_error _
  · exact Or.inr ⟨identity, expiry, hsome, h, hheld, examine_of_known hsome h⟩

/-- The first stage only reports. -/
theorem exists_examine_reports (p : IdentityProvider) (request : ReceivedRequest) (key : String)
    (now : Instant) : ∃ result, (p.examine request key now).Reports result := by
  rcases p.examine_reports request key now with ⟨-, h⟩ | ⟨-, h⟩ | ⟨_, _, -, -, -, h⟩
  · exact ⟨_, h⟩
  · exact ⟨_, h⟩
  · exact ⟨_, h⟩

theorem examine_blind (p : IdentityProvider) (request : ReceivedRequest) (key : String)
    (now : Instant) : (p.examine request key now).Blind := by
  obtain ⟨_, h⟩ := p.exists_examine_reports request key now
  exact h.blind

/-! ## The second stage -/

/-- The second stage draws two IDs and leaves the cache alone; all else depends on the assertion. -/
theorem run_prepare (p : IdentityProvider) (request : ReceivedRequest) (solicited : Bool)
    (identity : ResolvedIdentity) (now : Instant) (s : Session) :
    ∃ t, (p.prepare request solicited identity now).run s
        = (p.assertionFor request solicited identity now (s.upcomingId 0) (s.upcomingId 1), t) ∧
      t.cache = s.cache ∧ t.upcomingId 0 = s.upcomingId 2 := by
  refine ⟨{ s.reporting (p.fallbackEvent? identity).toList with drawn := s.drawn + 2 }, ?_, rfl,
    rfl⟩
  rw [prepare, Step.run_bind_of_ok (Step.run_report? _ _), Step.run_bind_of_ok (Step.run_drawId _),
    Step.run_bind_of_ok (Step.run_drawId _), Step.run_attempt]
  rfl

theorem prepare_blind (p : IdentityProvider) (request : ReceivedRequest) (solicited : Bool)
    (identity : ResolvedIdentity) (now : Instant) :
    (p.prepare request solicited identity now).Blind :=
  (Step.Reports.report? _).blind.bind fun _ => Step.Blind.drawId.bind fun _ =>
    Step.Blind.drawId.bind fun _ => (Step.Reports.attempt rfl).blind

/-- **How the assertion is made.**  It may have nobody to be for, and then an instant may leave the
range. -/
theorem assertionFor_cases (p : IdentityProvider) (request : ReceivedRequest) (solicited : Bool)
    (identity : ResolvedIdentity) (now : Instant) (id newSession : String) :
    (isBlankText request.issuer = true ∧
      p.assertionFor request solicited identity now id newSession = Stop.refuse noAudience) ∨
    (¬ p.InRange request.issueInstant now ∧
      p.assertionFor request solicited identity now id newSession = .error .outOfRange) ∨
    ∃ assertion, isBlankText request.issuer = false ∧
      p.assertionFor request solicited identity now id newSession = .ok assertion ∧
      assertion.id = id ∧
      assertion.notOnOrAfter.nanoseconds
        = now.wholeSeconds.nanoseconds + p.window.validity.nanoseconds ∧
      (p.InRange request.issueInstant now → ∀ t ∈ assertion.instants, t.toUtc?.isSome) := by
  have haudience : ([request.issuer].isEmpty || [request.issuer].any isBlankText)
      = isBlankText request.issuer := by
    rw [List.isEmpty_cons, Bool.false_or, List.any_cons, List.any_nil, Bool.or_false]
  rw [assertionFor]
  rcases Assertion.build_cases p.entityId (p.subject identity) identity.released [request.issuer]
    p.window ⟨p.authnContextClass, some now, none⟩ now id newSession with
    ⟨hblank, h⟩ | ⟨-, hnone, h⟩ | ⟨haddressed, notBefore, notOnOrAfter, hbefore, hafter, h⟩
  · exact Or.inl ⟨haudience ▸ hblank, by rw [h]; rfl⟩
  · refine Or.inr (Or.inl ⟨fun hrange => ?_, by rw [h]; rfl⟩)
    obtain ⟨notBefore, hbefore, -⟩ := hrange.notBefore
    obtain ⟨notOnOrAfter, hafter, -⟩ := hrange.notOnOrAfter
    rw [hbefore, hafter] at hnone
    exact hnone.elim nofun nofun
  · refine Or.inr (Or.inr ⟨_, haudience ▸ haddressed, by rw [h]; rfl, rfl,
      Instant.nanoseconds_add? hafter, fun hrange t ht => ?_⟩)
    obtain ⟨first, hfirst, hfirstUtc⟩ := hrange.notBefore
    obtain ⟨last, hlast, hlastUtc⟩ := hrange.notOnOrAfter
    obtain rfl : notBefore = first := Option.some.inj (hbefore.symm.trans hfirst)
    obtain rfl : notOnOrAfter = last := Option.some.inj (hafter.symm.trans hlast)
    simp only [Assertion.instants, List.mem_cons, List.not_mem_nil, or_false] at ht
    rcases ht with rfl | rfl | rfl | rfl
    · exact hrange.written
    · exact hlastUtc
    · exact hfirstUtc
    · exact hrange.written

theorem id_of_assertionFor {p : IdentityProvider} {request : ReceivedRequest} {solicited : Bool}
    {identity : ResolvedIdentity} {now : Instant} {id newSession : String} {assertion : Assertion}
    (h : p.assertionFor request solicited identity now id newSession = .ok assertion) :
    assertion.id = id := by
  rcases p.assertionFor_cases request solicited identity now id newSession with
    ⟨-, h'⟩ | ⟨-, h'⟩ | ⟨built, -, h', hid, -⟩
  · rw [h] at h'; cases h'
  · rw [h] at h'; cases h'
  · rw [h] at h'
    cases h'
    exact hid

/-- An assertion is issued at the start of the second, and ends to be valid when its validity is
over. -/
theorem instants_of_assertionFor {p : IdentityProvider} {request : ReceivedRequest}
    {solicited : Bool} {identity : ResolvedIdentity} {now : Instant} {id newSession : String}
    {assertion : Assertion}
    (h : p.assertionFor request solicited identity now id newSession = .ok assertion) :
    assertion.issueInstant = now.wholeSeconds ∧
      now.wholeSeconds.add? p.window.validity = some assertion.notOnOrAfter := by
  rw [assertionFor] at h
  rcases Assertion.build_cases p.entityId (p.subject identity) identity.released [request.issuer]
    p.window ⟨p.authnContextClass, some now, none⟩ now id newSession with
    ⟨-, hbuild⟩ | ⟨-, -, hbuild⟩ | ⟨-, notBefore, notOnOrAfter, -, hafter, hbuild⟩
  · rw [hbuild] at h; cases h
  · rw [hbuild] at h; cases h
  · rw [hbuild] at h
    cases h
    exact ⟨rfl, hafter⟩

/-! ## The last stage -/

/-- An element with the provider's signature, or why it has none. -/
def signed (p : IdentityProvider) (element : Element) : Except Fault SignedDocument :=
  sign p.denied p.signer p.key.certificate.der p.options element

/-- An element as a response is sent: with the provider's signature or without. -/
def closed (p : IdentityProvider) (element : Element) (wanted : Bool) : Except Fault Element :=
  if wanted then (p.signed element).map (·.element) else .ok element

theorem sealed_reports (p : IdentityProvider) (element : Element) :
    (p.sealed element).Reports (Stop.ofFallible (p.signed element)) := by
  rw [IdentityProvider.sealed]
  refine (Step.Reports.report? _).bind ?_
  show ((Step.attempt (Stop.ofFallible (p.signed element)) >>= _ : Step SignedDocument)).Reports _
  cases p.signed element with
  | error cause => exact (Step.Reports.attempt rfl).bind_error _
  | ok document =>
    exact (Step.Reports.attempt rfl).bind ((Step.Reports.report _).bind (Step.Reports.pure _))

/-- The text of a response, once its element is known, depends on its signature alone. -/
theorem finish_reports {p : IdentityProvider} {d : ResponseDocument} {element : Element}
    (h : d.toElement = .ok element) (wanted : Bool) :
    (p.finish d wanted).Reports (Stop.ofFallible ((p.closed element wanted).map fun final =>
      ⟨d.id, d.inResponseTo, d.destination, none, d.status, final.toDocument⟩)) := by
  rw [finish]
  refine (Step.Reports.attempt h).bind ?_
  cases wanted with
  | false => exact (Step.Reports.pure element).bind (Step.Reports.pure _)
  | true =>
    have hsealed := p.sealed_reports element
    rw [closed, if_pos rfl]
    rw [if_pos rfl, map_eq_pure_bind, bind_assoc]
    cases hsigned : p.signed element with
    | error cause =>
      rw [hsigned] at hsealed
      exact hsealed.bind_error _
    | ok document =>
      rw [hsigned] at hsealed
      exact hsealed.bind ((Step.Reports.pure _).bind (Step.Reports.pure _))

/-- How the last stage ends for an assertion, when the response gets some ID: the assertion is
written first, then signed, then the response around it is. -/
inductive Delivers (p : IdentityProvider) (request : ReceivedRequest) (solicited : Bool)
    (assertion : Assertion) (id : String) : Except Fault FinishedResponse → Prop where
  /-- An instant of the assertion cannot be written. -/
  | unwritten (h : assertion.toElement = Stop.refuse Instant.unwritableYear) :
      Delivers p request solicited assertion id (.error Instant.unwritableYear)
  /-- The assertion cannot be signed. -/
  | unsigned {element : Element} {cause : Fault} (written : assertion.toElement = .ok element)
      (h : p.signed element = .error cause) :
      Delivers p request solicited assertion id (.error cause)
  /-- The response around the assertion cannot be signed. -/
  | unclosed {element whole : Element} {document : SignedDocument} {cause : Fault}
      (written : assertion.toElement = .ok element) (signed : p.signed element = .ok document)
      (around : (p.responseFor request solicited assertion document.element id).toElement
        = .ok whole)
      (h : p.closed whole p.signResponse = .error cause) :
      Delivers p request solicited assertion id (.error cause)
  /-- The response is sent. -/
  | sent {element whole final : Element} {document : SignedDocument}
      (written : assertion.toElement = .ok element) (signed : p.signed element = .ok document)
      (around : (p.responseFor request solicited assertion document.element id).toElement
        = .ok whole)
      (h : p.closed whole p.signResponse = .ok final) :
      Delivers p request solicited assertion id (.ok {
        responseId := id
        inResponseTo := if solicited then some request.id else none
        destination := some request.acsUrl
        assertionId := some assertion.id
        status := .success
        xml := final.toDocument })

/-- The last stage ends one way or the other once the instants of the assertion exist at UTC. -/
theorem Delivers.toElement_ne {p : IdentityProvider} {request : ReceivedRequest} {solicited : Bool}
    {assertion : Assertion} {id : String} {result : Except Fault FinishedResponse}
    (h : p.Delivers request solicited assertion id result) :
    assertion.toElement ≠ .error .outOfRange := by
  cases h with
  | unwritten h => rw [h]; nofun
  | unsigned written => rw [written]; nofun
  | unclosed written => rw [written]; nofun
  | sent written => rw [written]; nofun

/-- A response is written as soon as its instant is. -/
theorem toElement_responseFor {assertion : Assertion} {text : String}
    (h : assertion.issueInstant.write = .ok text) (p : IdentityProvider) (request : ReceivedRequest)
    (solicited : Bool) (signed : Element) (id : String) :
    ∃ whole, (p.responseFor request solicited assertion signed id).toElement = .ok whole := by
  rw [ResponseDocument.toElement, responseFor, h]
  exact ⟨_, rfl⟩

/-- **How the last stage ends.**  It leaves the cache alone. -/
theorem run_deliver (p : IdentityProvider) (request : ReceivedRequest) (solicited : Bool)
    (assertion : Assertion) (s : Session) :
    ((∃ t ∈ assertion.instants, t.toUtc? = none) ∧
      ((p.deliver request solicited assertion).run s).1 = .error .outOfRange) ∨
    ∃ result, ((p.deliver request solicited assertion).run s).1 = Stop.ofFallible result ∧
      p.Delivers request solicited assertion (s.upcomingId 0) result := by
  have hreport := Step.Reports.report
    (FlowState.transition .identityResolved .assertionIssued request.id)
  rcases assertion.toElement_cases with ⟨hnone, h⟩ | h | ⟨element, text, h, htext⟩
  · have hrun : (p.deliver request solicited assertion).Reports (.error .outOfRange) :=
      hreport.bind ((Step.Reports.attempt h).bind_error _)
    exact Or.inl ⟨hnone, hrun.fst_run s⟩
  · have hrun : (p.deliver request solicited assertion).Reports
        (Stop.ofFallible (.error Instant.unwritableYear)) :=
      hreport.bind ((Step.Reports.attempt h).bind_error _)
    exact Or.inr ⟨_, hrun.fst_run s, .unwritten h⟩
  have helement := Step.Reports.attempt h
  have hsealed := p.sealed_reports element
  refine Or.inr ?_
  cases hsigned : p.signed element with
  | error cause =>
    rw [hsigned] at hsealed
    have hrun : (p.deliver request solicited assertion).Reports (Stop.ofFallible (.error cause)) :=
      hreport.bind (helement.bind (hsealed.bind_error _))
    exact ⟨_, hrun.fst_run s, .unsigned h hsigned⟩
  | ok document =>
    rw [hsigned] at hsealed
    obtain ⟨whole, hwhole⟩ :=
      toElement_responseFor htext p request solicited document.element (s.upcomingId 0)
    have hfinish := finish_reports (p := p) hwhole p.signResponse
    obtain ⟨first, hfirst⟩ := hreport.run_bind_eq _ s
    obtain ⟨second, hsecond⟩ := helement.run_bind_eq _ (s.reporting first)
    obtain ⟨third, hthird⟩ := hsealed.run_bind_eq _ ((s.reporting first).reporting second)
    rw [deliver, hfirst, hsecond, hthird, Step.run_bind_of_ok (Step.run_drawId _)]
    cases hclosed : p.closed whole p.signResponse with
    | error cause =>
      rw [hclosed] at hfinish
      exact ⟨_, (hfinish.bind_error _).fst_run _, .unclosed h hsigned hwhole hclosed⟩
    | ok final =>
      rw [hclosed] at hfinish
      refine ⟨_, (hfinish.bind ?_).fst_run _, .sent h hsigned hwhole hclosed⟩
      exact (Step.Reports.report _).bind ((Step.Reports.report _).bind
        ((Step.Reports.report _).bind (Step.Reports.pure _)))

/-- **How a response is finished.**  Unless its instant leaves the range, it is finished or refused,
and the cache plays no part. -/
theorem finish_cases (p : IdentityProvider) (d : ResponseDocument) (wanted : Bool) :
    (d.issueInstant.toUtc? = none ∧ (p.finish d wanted).Reports (.error .outOfRange)) ∨
      ∃ finished, (p.finish d wanted).Reports (Stop.ofFallible finished) := by
  have helement : d.toElement = d.issueInstant.write >>= _ := rfl
  rcases d.issueInstant.write_cases with ⟨hnone, h⟩ | h | ⟨text, h⟩
  · rw [h] at helement
    exact Or.inl ⟨hnone, (Step.Reports.attempt helement).bind_error _⟩
  · rw [h] at helement
    exact Or.inr ⟨.error Instant.unwritableYear, (Step.Reports.attempt helement).bind_error _⟩
  · rw [h] at helement
    exact Or.inr ⟨_, finish_reports helement wanted⟩

theorem finish_blind (p : IdentityProvider) (d : ResponseDocument) (wanted : Bool) :
    (p.finish d wanted).Blind := by
  rcases p.finish_cases d wanted with ⟨-, h⟩ | ⟨_, h⟩
  · exact h.blind
  · exact h.blind

theorem dispatch_blind (p : IdentityProvider) (request : ReceivedRequest) (solicited : Bool)
    (assertion : Assertion) : (p.dispatch request solicited assertion).Blind := by
  refine (Step.Reports.attempt rfl).blind.bind fun element => ?_
  refine (p.sealed_reports element).blind.bind fun document => Step.Blind.drawId.bind fun id => ?_
  refine (p.finish_blind _ _).bind fun response => ?_
  exact (Step.Reports.report _).blind.bind fun _ => (Step.Reports.report _).blind.bind fun _ =>
    (Step.Reports.report _).blind.bind fun _ => (Step.Reports.pure _).blind

theorem deliver_blind (p : IdentityProvider) (request : ReceivedRequest) (solicited : Bool)
    (assertion : Assertion) : (p.deliver request solicited assertion).Blind :=
  (Step.Reports.report _).blind.bind fun _ => p.dispatch_blind request solicited assertion

/-- Once an assertion is granted, the used IDs stay as they are, whatever becomes of it. -/
theorem cache_issue_eq_grant (p : IdentityProvider) (request : ReceivedRequest) (solicited : Bool)
    (key : String) (now : Instant) (s : Session) :
    ((p.issue request solicited key now).run s).2.cache
      = ((p.grant request solicited key now).run s).2.cache := by
  rw [issue_eq_grant]
  exact Step.Blind.cache_bind (p.dispatch_blind request solicited) _ s

/-! ## What comes after the request ID -/

/-- How issuing ends once the request ID is consumed: from a cache, with the IDs that are drawn, to
a result and a cache. -/
inductive Completes (p : IdentityProvider) (request : ReceivedRequest) (solicited : Bool)
    (identity : ResolvedIdentity) (now : Instant) (c : ReplayCache) (ids : Nat → String) :
    Except Fault FinishedResponse → ReplayCache → Prop where
  /-- There is nobody whom the assertion could be for. -/
  | forNobody (blank : isBlankText request.issuer = true) :
      Completes p request solicited identity now c ids (.error noAudience) c
  /-- The assertion ID is remembered. -/
  | replayed (addressed : isBlankText request.issuer = false)
      (used : c.contains (ids 0) now = true) :
      Completes p request solicited identity now c ids (.error (.replayDetected (ids 0))) c
  /-- All that is left is to write and to sign: the assertion ID is consumed, whatever comes of
  it. -/
  | issued {assertion : Assertion} {result : Except Fault FinishedResponse}
      (addressed : isBlankText request.issuer = false) (unused : c.contains (ids 0) now = false)
      (built : p.assertionFor request solicited identity now (ids 0) (ids 1) = .ok assertion)
      (valid : assertion.notOnOrAfter.nanoseconds
        = now.wholeSeconds.nanoseconds + p.window.validity.nanoseconds)
      (delivered : p.Delivers request solicited assertion (ids 2) result) :
      Completes p request solicited identity now c ids result
        (c.record (ids 0) assertion.notOnOrAfter)

/-- The entries of other IDs stay as they are. -/
theorem Completes.expiry?_eq {p : IdentityProvider} {request : ReceivedRequest} {solicited : Bool}
    {identity : ResolvedIdentity} {now : Instant} {c final : ReplayCache} {ids : Nat → String}
    {result : Except Fault FinishedResponse}
    (h : p.Completes request solicited identity now c ids result final) {id : String}
    (hid : id ≠ ids 0) : final.expiry? id = c.expiry? id := by
  cases h with
  | forNobody => rfl
  | replayed => rfl
  | issued => exact ReplayCache.expiry?_record_of_ne hid c _

/-- **What comes after the request ID.**  Unless an instant leaves the range, it ends in one of the
ways of `Completes`. -/
theorem run_complete (p : IdentityProvider) (request : ReceivedRequest) (solicited : Bool)
    (identity : ResolvedIdentity) (now : Instant) (s : Session) :
    (¬ p.InRange request.issueInstant now ∧
      ((p.complete request solicited identity now).run s).1 = .error .outOfRange) ∨
    ∃ result, ((p.complete request solicited identity now).run s).1 = Stop.ofFallible result ∧
      p.Completes request solicited identity now s.cache s.upcomingId result
        ((p.complete request solicited identity now).run s).2.cache := by
  obtain ⟨t, hprepare, hcache, hnext⟩ := p.run_prepare request solicited identity now s
  rw [complete, ← hcache]
  rcases p.assertionFor_cases request solicited identity now (s.upcomingId 0) (s.upcomingId 1) with
    ⟨blank, h⟩ | ⟨hrange, h⟩ | ⟨assertion, addressed, h, hid, valid, hwritten⟩
  · rw [h] at hprepare
    rw [Step.run_bind_of_error hprepare]
    exact Or.inr ⟨_, rfl, .forNobody blank⟩
  · rw [h] at hprepare
    rw [Step.run_bind_of_error hprepare]
    exact Or.inl ⟨hrange, rfl⟩
  rw [h] at hprepare
  rw [Step.run_bind_of_ok hprepare, hid]
  cases used : t.cache.contains (s.upcomingId 0) now with
  | true =>
    rw [Step.run_bind_of_error (Step.run_consume_of_contains used _)]
    exact Or.inr ⟨_, rfl, .replayed addressed used⟩
  | false =>
    rw [Step.run_bind_of_ok (Step.run_consume_of_not_contains used _),
      (p.deliver_blind request solicited assertion).cache_eq]
    -- the last stage leaves the cache to the two IDs
    rcases p.run_deliver request solicited assertion _ with
      ⟨⟨u, hu, hnone⟩, hrun⟩ | ⟨result, hrun, hresult⟩
    · refine Or.inl ⟨fun hrange => ?_, hrun⟩
      have hutc := hwritten hrange u hu
      rw [hnone] at hutc
      exact Bool.false_ne_true hutc
    · exact Or.inr ⟨result, hrun, .issued addressed used h valid (hnext ▸ hresult)⟩

/-- Whatever comes after the request ID, the entries of other IDs than that of the assertion stay as
they are. -/
theorem expiry?_complete (p : IdentityProvider) {s : Session} {id : String}
    (h : id ≠ s.upcomingId 0) (request : ReceivedRequest) (solicited : Bool)
    (identity : ResolvedIdentity) (now : Instant) :
    ((p.complete request solicited identity now).run s).2.cache.expiry? id
      = s.cache.expiry? id := by
  obtain ⟨t, hprepare, hcache, -⟩ := p.run_prepare request solicited identity now s
  rw [complete, ← hcache]
  cases ha : p.assertionFor request solicited identity now (s.upcomingId 0) (s.upcomingId 1) with
  | error stop =>
    rw [ha] at hprepare
    rw [Step.run_bind_of_error hprepare]
  | ok assertion =>
    rw [ha] at hprepare
    rw [Step.run_bind_of_ok hprepare, id_of_assertionFor ha,
      Step.Blind.cache_bind fun _ => p.deliver_blind request solicited assertion]
    cases used : t.cache.contains (s.upcomingId 0) now with
    | true => rw [Step.run_consume_of_contains used]; rfl
    | false =>
      rw [Step.run_consume_of_not_contains used]
      exact ReplayCache.expiry?_record_of_ne h t.cache _

/-! ## All stages -/

/-- For a key that finds nobody, issuing is over once the name is refused. -/
theorem issue_of_unknown {p : IdentityProvider} {key : String}
    (unknown : p.resolver.directory.identity? key = none) (request : ReceivedRequest)
    (solicited : Bool) (now : Instant) :
    p.issue request solicited key now
      = Step.attempt (Stop.refuse (.authnFailed (username key))) := by
  rw [issue, grant, authenticated, Resolver.resolve_of_unknown unknown]
  rfl

/-- How issuing ends: from a cache, with the IDs that are drawn, to a result and a cache.  Each way
presumes that those before it do not apply. -/
inductive Issues (p : IdentityProvider) (request : ReceivedRequest) (solicited : Bool)
    (key : String) (now : Instant) (c : ReplayCache) (ids : Nat → String) :
    Except Fault FinishedResponse → ReplayCache → Prop where
  /-- The key belongs to nobody: nothing is consumed. -/
  | unknownUser (unknown : p.resolver.directory.identity? key = none) :
      Issues p request solicited key now c ids (.error (.authnFailed (username key))) c
  /-- The request ID is remembered: nothing is consumed. -/
  | replayed {identity : ResolvedIdentity} (known : p.resolver.resolve key = .ok identity)
      (used : c.contains request.id now = true) :
      Issues p request solicited key now c ids (.error (.replayDetected request.id)) c
  /-- The request ID is consumed, whatever comes of it. -/
  | admitted {identity : ResolvedIdentity} {expiry : Instant}
      {result : Except Fault FinishedResponse} {final : ReplayCache}
      (known : p.resolver.resolve key = .ok identity) (unused : c.contains request.id now = false)
      (held : expiry.nanoseconds = p.heldUntil request.issueInstant now)
      (completed : p.Completes request solicited identity now (c.record request.id expiry) ids
        result final) :
      Issues p request solicited key now c ids result final

/-- The entries of other IDs stay as they are. -/
theorem Issues.expiry?_eq {p : IdentityProvider} {request : ReceivedRequest} {solicited : Bool}
    {key : String} {now : Instant} {c final : ReplayCache} {ids : Nat → String}
    {result : Except Fault FinishedResponse}
    (h : p.Issues request solicited key now c ids result final) {id : String}
    (hrequest : id ≠ request.id) (hid : id ≠ ids 0) : final.expiry? id = c.expiry? id := by
  cases h with
  | unknownUser => rfl
  | replayed => rfl
  | admitted known unused held completed =>
    rw [completed.expiry?_eq hid, ReplayCache.expiry?_record_of_ne hrequest]

/-- **What issuing does.**  Unless an instant leaves the range, it ends in one of the ways of
`Issues`. -/
theorem run_issue (p : IdentityProvider) (request : ReceivedRequest) (solicited : Bool)
    (key : String) (now : Instant) (s : Session) :
    (¬ p.InRange request.issueInstant now ∧
      ((p.issue request solicited key now).run s).1 = .error .outOfRange) ∨
    ∃ result, ((p.issue request solicited key now).run s).1 = Stop.ofFallible result ∧
      p.Issues request solicited key now s.cache s.upcomingId result
        ((p.issue request solicited key now).run s).2.cache := by
  rw [issue_eq]
  rcases p.examine_reports request key now with
    ⟨hnone, _, h⟩ | ⟨hrange, _, h⟩ | ⟨identity, expiry, known, -, held, events, h⟩
  · rw [Step.run_bind_of_error (h s)]
    exact Or.inr ⟨_, rfl, .unknownUser hnone⟩
  · rw [Step.run_bind_of_error (h s)]
    exact Or.inl ⟨hrange, rfl⟩
  rw [Step.run_bind_of_ok (h s)]
  cases unused : s.cache.contains request.id now with
  | true =>
    have hconsume := Step.run_consume_of_contains (s := s.reporting events) unused expiry
    rw [Step.run_bind_of_error hconsume]
    exact Or.inr ⟨_, rfl, .replayed known unused⟩
  | false =>
    have hconsume := Step.run_consume_of_not_contains (s := s.reporting events) unused expiry
    rw [Step.run_bind_of_ok hconsume]
    rcases p.run_complete request solicited identity now _ with hout | ⟨result, hrun, hresult⟩
    · exact Or.inl hout
    · exact Or.inr ⟨result, hrun, .admitted known unused held hresult⟩

/-! ## Which entries of the cache are looked at -/

section Alike

variable {p : IdentityProvider} {request : ReceivedRequest} {now : Instant} {s : Session}
  {c : ReplayCache}

/-- After the request ID, only the entry of the assertion ID is looked at. -/
theorem complete_alikeWith
    (h : c.contains (s.upcomingId 0) now = s.cache.contains (s.upcomingId 0) now)
    (solicited : Bool) (identity : ResolvedIdentity) :
    (p.complete request solicited identity now).AlikeWith s c := by
  obtain ⟨t, hprepare, hcache, -⟩ := p.run_prepare request solicited identity now s
  refine (p.prepare_blind request solicited identity now).alikeWith_bind fun assertion ha => ?_
  rw [hprepare] at ha ⊢
  have hid : assertion.id = s.upcomingId 0 := id_of_assertionFor ha
  rw [hid]
  refine .consume_bind (by rw [hcache, h]) _ ?_
  exact (p.deliver_blind request solicited assertion).alikeWith _ _

/-- **Issuing looks at two entries of the cache**, that of the request ID and that of the assertion
ID, and only at whether they are remembered. -/
theorem issue_alikeWith (hrequest : c.contains request.id now = s.cache.contains request.id now)
    (hassertion : c.contains (s.upcomingId 0) now = s.cache.contains (s.upcomingId 0) now)
    (solicited : Bool) (key : String) : (p.issue request solicited key now).AlikeWith s c := by
  rw [issue_eq]
  refine (p.examine_blind request key now).alikeWith_bind fun e he => ?_
  obtain ⟨_, events, hexamine⟩ := p.exists_examine_reports request key now
  rw [hexamine]
  refine .consume_bind (s := s.reporting events) hrequest e.2 ?_
  refine complete_alikeWith ?_ solicited e.1
  show (c.record request.id e.2).contains (s.upcomingId 0) now
    = (s.cache.record request.id e.2).contains (s.upcomingId 0) now
  rw [ReplayCache.contains_record, ReplayCache.contains_record, hassertion]

end Alike

/-! ## When the cache is used -/

theorem complete_usesAt (p : IdentityProvider) (request : ReceivedRequest) (solicited : Bool)
    (identity : ResolvedIdentity) (now : Instant) :
    (p.complete request solicited identity now).UsesAt now :=
  ((p.prepare_blind request solicited identity now).usesAt now).bind fun assertion =>
    (Step.UsesAt.consume assertion.id assertion.notOnOrAfter).bind fun _ =>
      (p.deliver_blind request solicited assertion).usesAt now

theorem issue_usesAt (p : IdentityProvider) (request : ReceivedRequest) (solicited : Bool)
    (key : String) (now : Instant) : (p.issue request solicited key now).UsesAt now := by
  rw [issue_eq]
  refine ((p.examine_blind request key now).usesAt now).bind fun e => ?_
  exact (Step.UsesAt.consume request.id e.2).bind fun _ =>
    p.complete_usesAt request solicited e.1 now

end IdentityProvider
end WebSso
