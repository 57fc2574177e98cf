import WebSso.Proofs.IdentityProvider.Calls
import WebSso.Proofs.IdentityProvider.Unsolicited

/-!
# Providers that deny their own algorithms

The algorithms that a provider signs with and those that it denies are configured apart, and a
provider may well deny what it signs with.  It is then not to fall back on anything: not on another
algorithm, and not on a response without a signature.  An assertion is always signed, and so is a
response that tells of a refusal; only a response around a signed assertion may go without.  This
file shows that nothing is sent.

Each document that is signed is written first, and a denied algorithm is refused before anything
else is done to it.  So all that matters of a call is whether it comes to signing.

## What is here

* `IdentityProvider.DeniesItself`;
* `Step.refuseAlgorithm`, what signing comes to, with `IdentityProvider.sealed_of_denied`;
* `IdentityProvider.draft`, all that comes before the assertion is signed, and `refusalAfter`, what
  a call is refused for that cannot sign;
* `ProviderCall.FailsClosed`, how such a call ends, and `ProviderCall.failsClosed_of_denied`;
* `Session.responses`, all that is sent in some calls, and `Session.nothing_sent`.
-/

set_option autoImplicit false
namespace WebSso

/-! ## What signing comes to -/

/-- One of the algorithms that a provider signs with is one that it denies. -/
def IdentityProvider.DeniesItself (p : IdentityProvider) : Prop :=
  ∃ uri ∈ p.options.uris, p.denied.denies uri = true

/-- Reports that an algorithm is denied, and stops. -/
def Step.refuseAlgorithm {α : Type} (uri : String) : Step α := do
  Step.report (DenyList.refusedEvent uri)
  Step.attempt (Stop.refuse (.deniedAlgorithm uri))

/-- What stops a call that cannot sign: what stopped it before it came to signing, or else the
algorithm that is denied. -/
def refusalAfter {α : Type} (uri : String) : Attempt α → Stop
  | .ok _ => .refused (.deniedAlgorithm uri)
  | .error stop => stop

namespace Step

variable {α β : Type}

theorem refuseAlgorithm_reports (uri : String) :
    (refuseAlgorithm uri : Step α).Reports (.error (.refused (.deniedAlgorithm uri))) :=
  (Reports.report _).bind (Reports.attempt rfl)

/-- What cannot be signed in the end is not signed. -/
theorem fst_run_bind_refuseAlgorithm (x : Step α) (uri : String) (s : Session) :
    ((x >>= fun _ => refuseAlgorithm uri : Step β).run s).1
      = .error (refusalAfter uri (x.run s).1) := by
  rw [run_bind]
  rcases x.run s with ⟨r, t⟩
  cases r with
  | ok a => exact (refuseAlgorithm_reports uri).fst_run t
  | error stop => rfl

end Step

namespace IdentityProvider

variable {p : IdentityProvider} {uri : String}

/-- **The first algorithm that is denied** is looked for in the order signature, digest,
canonicalization. -/
theorem DeniesItself.exists_firstDenied? (h : p.DeniesItself) :
    ∃ uri, p.denied.firstDenied? p.options = some uri := by
  obtain ⟨uri, hmem, hdenied⟩ := h
  exact Option.isSome_iff_exists.1 (List.find?_isSome.2 ⟨uri, hmem, hdenied⟩)

/-- **Signing is refused before anything else is done.** -/
theorem sealed_of_denied (h : p.denied.firstDenied? p.options = some uri) (element : Element) :
    p.sealed element = Step.refuseAlgorithm uri := by
  rw [IdentityProvider.sealed, sign, h]
  rfl

theorem finish_of_denied (h : p.denied.firstDenied? p.options = some uri) (d : ResponseDocument) :
    p.finish d true = Step.attempt d.toElement >>= fun _ => Step.refuseAlgorithm uri := by
  rw [finish]
  refine congrArg _ (funext fun element => ?_)
  rw [if_pos rfl, sealed_of_denied h]
  rfl

/-! ## What comes before signing -/

/-- The assertion about the user of a key, as it is signed: all that comes before that. -/
def draft (p : IdentityProvider) (request : ReceivedRequest) (solicited : Bool) (key : String)
    (now : Instant) : Step Element := do
  let assertion ← p.grant request solicited key now
  Step.attempt assertion.toElement

/-- The assertion for a request, if it is fresh, as it is signed. -/
def draftFresh (p : IdentityProvider) (request : ReceivedRequest) (key : String) (now : Instant) :
    Step Element := do
  Step.attempt (p.checkFreshness request.id request.issueInstant now)
  p.draft request true key now

/-- The assertion for a relying party that sent no request, as it is signed. -/
def draftUnsolicited (p : IdentityProvider) (key audience : String) (now : Instant) :
    Step Element := do
  let id ← Step.drawId
  let request ← Step.require (p.impliedRequest audience id now)
  Step.report (FlowState.transition .idle .requestReceived request.id)
  p.draft request false key now

/-- **Issuing ends where the assertion is signed.** -/
theorem issue_of_denied (h : p.denied.firstDenied? p.options = some uri)
    (request : ReceivedRequest) (solicited : Bool) (key : String) (now : Instant) :
    p.issue request solicited key now
      = p.draft request solicited key now >>= fun _ => Step.refuseAlgorithm uri := by
  rw [issue, draft, bind_assoc]
  refine congrArg _ (funext fun assertion => congrArg _ (funext fun element => ?_))
  rw [sealed_of_denied h]
  rfl

theorem issueFresh_of_denied (h : p.denied.firstDenied? p.options = some uri)
    (request : ReceivedRequest) (key : String) (now : Instant) :
    p.issueFresh request key now
      = p.draftFresh request key now >>= fun _ => Step.refuseAlgorithm uri := by
  rw [issueFresh, draftFresh, bind_assoc, issue_of_denied h]

/-! ## Telling of a refusal -/

/-- The report that a response which tells of a refusal could not be signed. -/
def untoldEvent (told : Fault) : Event :=
  .warn "could not sign error response" [("error", .text told.message)]

theorem refusalAfter_toElement (uri : String) (d : ResponseDocument) :
    refusalAfter uri d.toElement = refusalAfter uri d.issueInstant.write := by
  rw [ResponseDocument.toElement]
  cases d.issueInstant.write with
  | ok text => rfl
  | error stop => rfl

theorem fst_run_errorResponse_of_denied (h : p.denied.firstDenied? p.options = some uri)
    (request : ReceivedRequest) (cause : Fault) (now : Instant) (s : Session) :
    ((p.errorResponse request cause now).run s).1
      = .error (refusalAfter uri now.wholeSeconds.write) := by
  rw [errorResponse, Step.run_bind_of_ok (Step.run_drawId s), finish_of_denied h,
    Step.fst_run_bind_refuseAlgorithm, Step.run_attempt, refusalAfter_toElement]

/-- **A refusal is not told either**, because what would tell it cannot be signed. -/
theorem run_settle_of_denied (h : p.denied.firstDenied? p.options = some uri)
    (request : ReceivedRequest) (cause : Fault) (now : Instant) (s : Session) :
    ((p.settle request now (.error cause)).run s).1 = .error .outOfRange ∨
    ∃ told, refusalAfter uri now.wholeSeconds.write = .refused told ∧
      ((p.settle request now (.error cause)).run s).1 = .ok (.rejected cause none) ∧
      ((p.settle request now (.error cause)).run s).2.log.getLast? = some (untoldEvent told) := by
  rw [settle, Step.run_bind_of_ok (Step.run_report _ s)]
  have hrun := fst_run_errorResponse_of_denied h request cause now
    (s.reporting [FlowState.transition .requestReceived .rejected request.id])
  cases hstop : refusalAfter uri now.wholeSeconds.write with
  | outOfRange =>
    rw [hstop] at hrun
    rw [Step.run_bind_of_error (Step.run_catching_of_outOfRange hrun)]
    exact Or.inl rfl
  | refused told =>
    rw [hstop] at hrun
    change _ = Stop.ofFallible (.error told) at hrun
    rw [Step.run_bind_of_ok (Step.run_catching_of_fallible hrun)]
    exact Or.inr ⟨told, rfl, rfl, List.getLast?_concat⟩

/-! ## Calls -/

/-- **A request is not answered.**  What it is refused for is what stopped it before its assertion
was to be signed, or else the algorithm. -/
theorem run_respond_of_denied (h : p.denied.firstDenied? p.options = some uri)
    (request : ReceivedRequest) (key : String) (now : Instant) (s : Session) :
    ((p.respond request key now).run s).1 = .error .outOfRange ∨
    ∃ cause told, refusalAfter uri ((p.draftFresh request key now).run s).1 = .refused cause ∧
      refusalAfter uri now.wholeSeconds.write = .refused told ∧
      ((p.respond request key now).run s).1 = .ok (.rejected cause none) ∧
      ((p.respond request key now).run s).2.log.getLast? = some (untoldEvent told) := by
  have hrun : ((p.issueFresh request key now).run s).1
      = .error (refusalAfter uri ((p.draftFresh request key now).run s).1) := by
    rw [issueFresh_of_denied h, Step.fst_run_bind_refuseAlgorithm]
  rw [respond_eq]
  cases hstop : refusalAfter uri ((p.draftFresh request key now).run s).1 with
  | outOfRange =>
    rw [hstop] at hrun
    rw [Step.run_bind_of_error (Step.run_catching_of_outOfRange hrun)]
    exact Or.inl rfl
  | refused cause =>
    rw [hstop] at hrun
    change _ = Stop.ofFallible (.error cause) at hrun
    rw [Step.run_bind_of_ok (Step.run_catching_of_fallible hrun)]
    rcases run_settle_of_denied h request cause now ((p.issueFresh request key now).run s).2 with
      hout | ⟨told, htold, hrejected, hlog⟩
    · exact Or.inl hout
    · exact Or.inr ⟨cause, told, rfl, htold, hrejected, hlog⟩

/-- **A relying party that sent no request is not answered.** -/
theorem run_authenticate_of_denied (h : p.denied.firstDenied? p.options = some uri)
    (key audience : String) (now : Instant) (s : Session) :
    ((p.authenticate key audience now).run s).1
      = .error (refusalAfter uri ((p.draftUnsolicited key audience now).run s).1) := by
  rw [draftUnsolicited, Step.run_bind_of_ok (Step.run_drawId s)]
  show ((p.authenticate key audience now).run s).1 = .error (refusalAfter uri
    ((Step.require (p.impliedRequest audience (s.upcomingId 0) now) >>= _ : Step Element).run _).1)
  cases himplied : p.impliedRequest audience (s.upcomingId 0) now with
  | error cause =>
    rw [run_authenticate_of_refused himplied,
      Step.run_bind_of_error (Step.run_require_error cause _), refusalAfter]
  | ok request =>
    have hid : request.id = s.upcomingId 0 := (id_issueInstant_of_impliedRequest himplied).1
    rw [(run_authenticate_of_implied himplied key).1, issue_of_denied h,
      Step.fst_run_bind_refuseAlgorithm, Step.run_bind_of_ok (Step.run_require_ok request _),
      Step.run_bind_of_ok (Step.run_report _ _), hid]
    rfl

end IdentityProvider

/-! ## Calls in a row -/

/-- How a call ends that cannot sign.  Unless it is given up for the range of years, a request is
rejected without a response, and that there is none is reported; without a request there is a
refusal.  Either names what stopped the call before its assertion was to be signed, or else the
first algorithm that is denied. -/
def ProviderCall.FailsClosed (s : Session) : ProviderCall → Prop
  | respond p request key now =>
    ∃ uri, p.denied.firstDenied? p.options = some uri ∧
      (p.InRange request.issueInstant now →
        ∃ outcome, ((p.respond request key now).run s).1 = .ok outcome) ∧
      ∀ outcome, ((p.respond request key now).run s).1 = .ok outcome →
        ∃ cause told, outcome = .rejected cause none ∧
          refusalAfter uri ((p.draftFresh request key now).run s).1 = .refused cause ∧
          refusalAfter uri now.wholeSeconds.write = .refused told ∧
          ((p.respond request key now).run s).2.log.getLast?
            = some (IdentityProvider.untoldEvent told)
  | authenticate p key audience now =>
    ∃ uri, p.denied.firstDenied? p.options = some uri ∧
      (p.InRange now now → ((p.authenticate key audience now).run s).1 ≠ .error .outOfRange) ∧
      ((p.authenticate key audience now).run s).1
        = .error (refusalAfter uri ((p.draftUnsolicited key audience now).run s).1)
  | purge _ => True

/-- The response that is sent in a call, if there is one. -/
def ProviderCall.response? (s : Session) : ProviderCall → Option FinishedResponse
  | respond p request key now =>
    match ((p.respond request key now).run s).1 with
    | .ok outcome => outcome.response?
    | .error _ => none
  | authenticate p key audience now =>
    match ((p.authenticate key audience now).run s).1 with
    | .ok response => some response
    | .error _ => none
  | purge _ => none

namespace ProviderCall

/-- **A call fails closed** if its provider denies what it signs with. -/
theorem failsClosed_of_denied (s : Session) (call : ProviderCall)
    (h : ∀ p, call.provider? = some p → p.DeniesItself) : call.FailsClosed s := by
  cases call with
  | respond p request key now =>
    obtain ⟨uri, hdenied⟩ := (h p rfl).exists_firstDenied?
    refine ⟨uri, hdenied, fun hrange => ?_, fun outcome houtcome => ?_⟩
    · rcases p.run_respond request key now s with ⟨hleft, -⟩ | ⟨outcome, houtcome, -⟩
      · exact absurd hrange hleft
      · exact ⟨outcome, houtcome⟩
    · rcases IdentityProvider.run_respond_of_denied hdenied request key now s with
        hout | ⟨cause, told, hcause, htold, hrejected, hlog⟩
      · rw [houtcome] at hout
        cases hout
      · rw [houtcome] at hrejected
        cases hrejected
        exact ⟨cause, told, rfl, hcause, htold, hlog⟩
  | authenticate p key audience now =>
    obtain ⟨uri, hdenied⟩ := (h p rfl).exists_firstDenied?
    refine ⟨uri, hdenied, fun hrange hout => ?_,
      IdentityProvider.run_authenticate_of_denied hdenied key audience now s⟩
    rcases p.run_authenticate key audience now s with
      ⟨cause, -, hrun⟩ | ⟨request, -, ⟨hleft, -⟩ | ⟨result, hresult, -⟩⟩
    · rw [hrun] at hout
      cases hout
    · exact hleft hrange
    · rw [hresult] at hout
      cases result with
      | ok response => cases hout
      | error cause => cases hout
  | purge now => trivial

/-- A call that fails closed sends nothing. -/
theorem FailsClosed.response?_eq_none {s : Session} {call : ProviderCall} (h : call.FailsClosed s) :
    call.response? s = none := by
  cases call with
  | respond p request key now =>
    obtain ⟨uri, -, -, hrejected⟩ := h
    rw [response?]
    cases hrun : ((p.respond request key now).run s).1 with
    | error stop => rfl
    | ok outcome =>
      obtain ⟨cause, told, rfl, -⟩ := hrejected outcome hrun
      rfl
  | authenticate p key audience now =>
    obtain ⟨uri, -, -, hrun⟩ := h
    rw [response?, hrun]
  | purge now => rfl

end ProviderCall

namespace Session

/-- All that is sent in some calls, first to last. -/
def responses : Session → List ProviderCall → List FinishedResponse
  | _, [] => []
  | s, call :: rest => (call.response? s).toList ++ (call.leaves s).responses rest

theorem responses_eq_nil {calls : List ProviderCall}
    (h : ∀ call ∈ calls, ∀ p, call.provider? = some p → p.DeniesItself) (s : Session) :
    s.responses calls = [] := by
  induction calls generalizing s with
  | nil => rfl
  | cons call rest ih =>
    have hnone := (call.failsClosed_of_denied s (h call List.mem_cons_self)).response?_eq_none
    have hrest := ih (fun other hother => h other (List.mem_cons_of_mem _ hother)) (call.leaves s)
    rw [responses, hnone, hrest]
    rfl

/-- **Providers that deny what they sign with send nothing**, whatever they are called for and
whatever was done before.  Every call fails closed in the session that the calls before it left. -/
theorem nothing_sent {calls : List ProviderCall}
    (h : ∀ call ∈ calls, ∀ p, call.provider? = some p → p.DeniesItself) (s : Session) :
    s.responses calls = [] ∧
      ∀ before call later, calls = before ++ call :: later → call.FailsClosed (s.after before) := by
  refine ⟨responses_eq_nil h s, ?_⟩
  rintro before call later rfl
  exact call.failsClosed_of_denied (s.after before)
    (h call (List.mem_append_right before List.mem_cons_self))

end Session

namespace IdentityProvider

/-- The provider of `solo`, which denies the algorithm that it signs with. -/
def conflicted : IdentityProvider :=
  { solo with denied := ⟨[SignatureAlgorithm.rsaSha256.uri]⟩ }

/-- The user of `conflicted` is not vouched for, neither at the first request nor at the next. -/
theorem nothing_sent_conflicted :
    conflicted.DeniesItself ∧
      (Session.start fun _ => 0).responses
        [.respond conflicted soloRequest "user1:password" noon,
          .authenticate conflicted "user1:password" "https://sp.example" noon] = [] ∧
      ∃ cause, ((conflicted.respond soloRequest "user1:password" noon).run (.start fun _ => 0)).1
        = .ok (.rejected cause none) := by
  have denied : conflicted.DeniesItself :=
    ⟨SignatureAlgorithm.rsaSha256.uri, List.mem_cons_self,
      List.contains_iff_mem.2 List.mem_cons_self⟩
  have hrange : conflicted.InRange soloRequest.issueInstant noon :=
    inRange_solo.of_windows rfl rfl rfl
  have hall : ∀ call ∈ [ProviderCall.respond conflicted soloRequest "user1:password" noon,
      .authenticate conflicted "user1:password" "https://sp.example" noon],
      ∀ p, call.provider? = some p → p.DeniesItself := by
    intro call hcall p hp
    simp only [List.mem_cons, List.not_mem_nil, or_false] at hcall
    rcases hcall with rfl | rfl
    · obtain rfl : conflicted = p := Option.some.inj hp
      exact denied
    · obtain rfl : conflicted = p := Option.some.inj hp
      exact denied
  obtain ⟨hnothing, hclosed⟩ := Session.nothing_sent hall (.start fun _ => 0)
  obtain ⟨uri, -, hreturns, hrejected⟩ := hclosed [] _ _ rfl
  refine ⟨denied, hnothing, ?_⟩
  obtain ⟨outcome, houtcome⟩ := hreturns hrange
  obtain ⟨cause, told, rfl, -⟩ := hrejected outcome houtcome
  exact ⟨cause, houtcome⟩

end IdentityProvider

end WebSso
