import WebSso.Proofs.IdentityProvider.Respond

/-!
# What answering without a request does

A relying party that sent no request is answered as if it had sent one just now: an ID is drawn for
the request, the request is made up, and a response is issued for it.  This file brings the answer
down to `IdentityProvider.issue`, of which everything is known.

## What is here

* `IdentityProvider.handOver`, what is made of the issued response or of the lack of one, and
  `IdentityProvider.authenticate_eq`;
* `IdentityProvider.impliedRequest_eq_ok_iff`, the request that is made up;
* `Session.opened`, the session that issuing starts from;
* `IdentityProvider.run_authenticate`, what answering without a request does.
-/

set_option autoImplicit false
namespace WebSso

/-- The session in which a response is issued without a request: an ID was drawn for the request,
and it was reported that the request was received. -/
def Session.opened (s : Session) : Session :=
  ({ s with drawn := s.drawn + 1 } : Session).reporting
    [FlowState.transition .idle .requestReceived (s.upcomingId 0)]

theorem Session.upcomingId_opened (s : Session) (more : Nat) :
    s.opened.upcomingId more = s.upcomingId (more + 1) := by
  show messageId (s.draws (s.drawn + 1 + more)) = messageId (s.draws (s.drawn + (more + 1)))
  rw [Nat.add_assoc, Nat.add_comm 1 more]

namespace IdentityProvider

/-! ## Handing a response over -/

/-- What is made of a response that was issued without a request: a refusal is reported first. -/
def handOver (audience : String) : Except Fault FinishedResponse → Step FinishedResponse
  | .ok response => pure response
  | .error cause => do
    Step.report (.warn "unsolicited response rejected"
      [("error", .text cause.message), ("audience", .text audience)])
    Step.attempt (Stop.refuse cause)

/-- Answering without a request is issuing a response to a request that is made up. -/
theorem authenticate_eq (p : IdentityProvider) (key audience : String) (now : Instant) :
    p.authenticate key audience now
      = Step.drawId >>= fun id => Step.require (p.impliedRequest audience id now) >>= fun request =>
          Step.report (FlowState.transition .idle .requestReceived request.id) >>= fun _ =>
            Step.catching (p.issue request false key now) >>= handOver audience := by
  rw [authenticate]
  refine congrArg _ (funext fun id => congrArg _ (funext fun request => ?_))
  refine congrArg _ (funext fun _ => congrArg _ (funext fun issued => ?_))
  cases issued with
  | ok response => rfl
  | error cause => rfl

theorem handOver_reports (audience : String) (issued : Except Fault FinishedResponse) :
    (handOver audience issued).Reports (Stop.ofFallible issued) := by
  cases issued with
  | ok response => exact Step.Reports.pure response
  | error cause => exact (Step.Reports.report _).bind (Step.Reports.attempt rfl)

/-- **A refusal stays what it is.**  That it is caught to be reported changes neither the result
nor the used IDs. -/
theorem run_catching_handOver (audience : String) (x : Step FinishedResponse) (s : Session) :
    ((Step.catching x >>= handOver audience).run s).1 = (x.run s).1 ∧
      ((Step.catching x >>= handOver audience).run s).2.cache = (x.run s).2.cache := by
  constructor
  · rw [Step.run_bind, Step.run_catching]
    rcases x.run s with ⟨r, t⟩
    cases r with
    | ok response => exact (handOver_reports audience (.ok response)).fst_run t
    | error stop =>
      cases stop with
      | outOfRange => rfl
      | refused cause => exact (handOver_reports audience (.error cause)).fst_run t
  · rw [Step.Blind.cache_bind fun issued => (handOver_reports audience issued).blind,
      Step.snd_run_catching]

/-! ## The request that is made up -/

/-- **The request that is made up** is of the present instant, and it is for the default endpoint
of a relying party that is known. -/
theorem impliedRequest_eq_ok_iff (p : IdentityProvider) (audience id : String) (now : Instant)
    (request : ReceivedRequest) :
    p.impliedRequest audience id now = .ok request ↔
      ∃ sp url, p.resolver.directory.serviceProvider? audience = some sp ∧
        sp.defaultAcsUrl = .ok url ∧ request = ⟨id, audience, url, now, none⟩ := by
  rw [impliedRequest]
  cases p.resolver.directory.serviceProvider? audience with
  | none => simp
  | some sp =>
    cases hurl : sp.defaultAcsUrl with
    | error cause => simp [hurl, Except.map]
    | ok url => simp [hurl, Except.map, eq_comm]

/-- It has the ID that was drawn for it. -/
theorem id_issueInstant_of_impliedRequest {p : IdentityProvider} {audience id : String}
    {now : Instant} {request : ReceivedRequest} (h : p.impliedRequest audience id now = .ok request) :
    request.id = id ∧ request.issueInstant = now := by
  obtain ⟨sp, url, -, -, rfl⟩ := (p.impliedRequest_eq_ok_iff audience id now request).1 h
  exact ⟨rfl, rfl⟩

/-! ## Answering -/

section Answer

variable {p : IdentityProvider} {audience : String} {now : Instant} {s : Session}

/-- Without a relying party to answer there is no answer. -/
theorem run_authenticate_of_refused {cause : Fault}
    (h : p.impliedRequest audience (s.upcomingId 0) now = .error cause) (key : String) :
    (p.authenticate key audience now).run s
      = (.error (.refused cause), { s with drawn := s.drawn + 1 }) := by
  rw [authenticate_eq, Step.run_bind_of_ok (Step.run_drawId s)]
  show ((Step.require (p.impliedRequest audience (s.upcomingId 0) now) >>= _ :
    Step FinishedResponse)).run _ = _
  rw [h, Step.run_bind_of_error (Step.run_require_error cause _)]

/-- A request that is made up is answered as one that was sent. -/
theorem run_authenticate_of_implied {request : ReceivedRequest}
    (h : p.impliedRequest audience (s.upcomingId 0) now = .ok request) (key : String) :
    ((p.authenticate key audience now).run s).1
        = ((p.issue request false key now).run s.opened).1 ∧
      ((p.authenticate key audience now).run s).2.cache
        = ((p.issue request false key now).run s.opened).2.cache := by
  have hid : request.id = s.upcomingId 0 := (id_issueInstant_of_impliedRequest h).1
  have hrun : (p.authenticate key audience now).run s
      = (Step.catching (p.issue request false key now) >>= handOver audience).run s.opened := by
    rw [authenticate_eq, Step.run_bind_of_ok (Step.run_drawId s)]
    show ((Step.require (p.impliedRequest audience (s.upcomingId 0) now) >>= _ :
      Step FinishedResponse)).run _ = _
    rw [h, Step.run_bind_of_ok (Step.run_require_ok request _),
      Step.run_bind_of_ok (Step.run_report _ _), hid]
    rfl
  rw [hrun]
  exact run_catching_handOver audience _ _

/-- **What answering without a request does.**  There may be no relying party to answer; else,
unless an instant leaves the range, a response is issued in one of the ways of `Issues`, to a
request with the first ID that is drawn. -/
theorem run_authenticate (p : IdentityProvider) (key audience : String) (now : Instant)
    (s : Session) :
    (∃ cause, p.impliedRequest audience (s.upcomingId 0) now = .error cause ∧
      (p.authenticate key audience now).run s
        = (.error (.refused cause), { s with drawn := s.drawn + 1 })) ∨
    ∃ request, p.impliedRequest audience (s.upcomingId 0) now = .ok request ∧
      ((¬ p.InRange now now ∧
          ((p.authenticate key audience now).run s).1 = .error .outOfRange) ∨
        ∃ result, ((p.authenticate key audience now).run s).1 = Stop.ofFallible result ∧
          p.Issues request false key now s.cache (fun more => s.upcomingId (more + 1)) result
            ((p.authenticate key audience now).run s).2.cache) := by
  cases himplied : p.impliedRequest audience (s.upcomingId 0) now with
  | error cause => exact Or.inl ⟨cause, rfl, run_authenticate_of_refused himplied key⟩
  | ok request =>
    refine Or.inr ⟨request, rfl, ?_⟩
    obtain ⟨hresult, hcache⟩ := run_authenticate_of_implied himplied key
    have hnow : request.issueInstant = now := (id_issueInstant_of_impliedRequest himplied).2
    have hids : s.opened.upcomingId = fun more => s.upcomingId (more + 1) :=
      funext s.upcomingId_opened
    rw [hresult, hcache]
    rcases p.run_issue request false key now s.opened with hout | ⟨result, hrun, hissues⟩
    · rw [hnow] at hout
      exact Or.inl hout
    · rw [hids] at hissues
      exact Or.inr ⟨result, hrun, hissues⟩

end Answer

end IdentityProvider

end WebSso
