import WebSso.Proofs.IdentityProvider.Addressed
import WebSso.Proofs.IdentityProvider.Counterparts
import WebSso.Proofs.IdentityProvider.Range

/-!
# Answering with and without a request agree

A relying party that sent no request is answered as if it had sent one just now.  Whatever refuses
the answer then refuses the answer to such a request too: the check for freshness, which only a
request that was sent has to pass, lets a request of the present instant pass, even if clocks must
not be apart and no request may have any age; and all else is one work, done with one difference.
The assertion that answers a request says so, and so does the response around it.

The two flows are run in parallel from the grant of an assertion to the text of the response.  Up
to signing nothing has to be assumed: the assertions differ in what they answer only, and the used
IDs are those of the grants.  The signer counts only where it is asked, which it is not if there is
no assertion or if an algorithm is denied.

## What is here

* `IdentityProvider.grant_parallel`, granting an assertion with and without a request;
* `IdentityProvider.issue_parallel`, the whole of issuing, where all of signing refuses alike, and
  `IdentityProvider.issue_agree`, its end, also where nothing is signed;
* `IdentityProvider.authenticate_agrees_with_respond`: the same refusals, the same used IDs, and
  assertions that differ in what they answer.
-/

set_option autoImplicit false
namespace WebSso

theorem Stop.ofFallible_eq_refused_iff {α : Type} {x : Except Fault α} {cause : Fault} :
    ofFallible x = .error (refused cause) ↔ x = .error cause := by
  cases x with
  | ok a => exact ⟨nofun, nofun⟩
  | error other => rw [ofFallible, Except.error.injEq, Except.error.injEq, refused.injEq]

namespace IdentityProvider

variable {p : IdentityProvider} {request : ReceivedRequest}

open Step (Parallel)

/-! ## The flows side by side -/

theorem authenticated_parallel (p : IdentityProvider) (key : String) :
    Parallel (· = ·) (p.authenticated key) (p.authenticated key) := by
  rcases p.resolver.resolve_cases key with hnone | ⟨identity, hsome⟩
  · have h := authenticated_of_unknown hnone
    exact .of_reports h h (.refl _)
  · have h := authenticated_of_known hsome
    exact .of_reports h h (.refl _)

theorem assertionFor_agree (p : IdentityProvider) (request : ReceivedRequest)
    (identity : ResolvedIdentity) (now : Instant) (id newSession : String) :
    Agree (Assertion.Answers request.id)
      (p.assertionFor request false identity now id newSession)
      (p.assertionFor request true identity now id newSession) := by
  rw [assertionFor, assertionFor]
  refine (Agree.refl (Assertion.build _ _ _ _ _ _ _ _ _)).bind ?_
  rintro a _ rfl
  exact .ok ⟨rfl, rfl⟩

/-- **The assertions that are granted differ in what they answer**, if any is. -/
theorem grant_parallel (p : IdentityProvider) (request : ReceivedRequest) (key : String)
    (now : Instant) :
    Parallel (Assertion.Answers request.id) (p.grant request false key now)
      (p.grant request true key now) := by
  rw [grant, grant]
  refine (p.authenticated_parallel key).bind_self fun identity => ?_
  refine (Parallel.report _ _).bind_self fun _ => ?_
  refine (Parallel.attempt (.refl _)).bind_self fun expiry => ?_
  refine (Parallel.consume _ _ _).bind_self fun _ => (Parallel.report? _ _).bind_self fun _ => ?_
  refine Parallel.drawId.bind_self fun id => Parallel.drawId.bind_self fun newSession => ?_
  refine (Parallel.attempt (p.assertionFor_agree request identity now id newSession)).bind ?_
  rintro a _ ⟨hnone, rfl⟩
  refine (Parallel.consume a.id a.notOnOrAfter now).bind_self fun _ => ?_
  exact (Parallel.report _ _).bind_self fun _ => .pure ⟨hnone, rfl⟩

section Signing

variable (hsigns : p.SignsAlike)
include hsigns

theorem sealed_parallel {e f : Element} (h : p.Counterparts e f) :
    Parallel (fun d d' => p.signed e = .ok d ∧ p.signed f = .ok d') (p.sealed e) (p.sealed f) :=
  .of_reports (p.sealed_reports e) (p.sealed_reports f) (hsigns h).ofFallible

theorem finish_parallel {d d' : ResponseDocument} (h : Agree p.Counterparts d.toElement d'.toElement)
    (wanted : Bool) : Parallel (fun _ _ => True) (p.finish d wanted) (p.finish d' wanted) := by
  rw [finish, finish]
  refine (Parallel.attempt h).bind fun e f hef => ?_
  cases wanted with
  | false => exact (Parallel.pure hef).bind fun _ _ _ => .pure trivial
  | true =>
    rw [if_pos rfl, if_pos rfl, map_eq_pure_bind, map_eq_pure_bind]
    refine Parallel.bind (R := fun _ _ => True) ?_ fun _ _ _ => .pure trivial
    exact (sealed_parallel hsigns hef).bind fun _ _ _ => .pure trivial

/-- What comes behind the grant of an assertion is one work with and without a request. -/
theorem dispatch_parallel {draw : Draw} (hid : request.id = messageId draw) {a b : Assertion}
    (hab : a.Answers request.id b) :
    Parallel (fun _ _ => True) (p.dispatch request false a) (p.dispatch request true b) := by
  rw [hid] at hab
  have hassertion : Agree AssertionCounterparts a.toElement b.toElement :=
    hab.toElement_agree.self.imp fun e f h => ⟨a, b, draw, hab, h⟩
  rw [dispatch, dispatch]
  refine (Parallel.attempt hassertion).bind fun e f hef => ?_
  refine (sealed_parallel hsigns (.assertion hef)).bind ?_
  rintro d d' ⟨hd, hd'⟩
  refine Parallel.drawId.bind_self fun id => ?_
  obtain ⟨-, rfl⟩ := hab
  have hdocument : Agree p.Counterparts (p.responseFor request false a d.element id).toElement
      (p.responseFor request true a d'.element id).toElement := by
    have hagree := ResponseDocument.toElement_agree
      ⟨id, p.entityId, a.issueInstant, some request.acsUrl, none, .success, none⟩ draw
      (alike_of_signed hef.alike hd hd')
    rw [responseFor, responseFor, hid]
    exact hagree.self.imp fun _ _ h => .response hef hd hd' h.1 h.2
  refine (finish_parallel hsigns hdocument p.signResponse).bind fun _ _ _ => ?_
  refine (Parallel.report _ _).bind_self fun _ => (Parallel.report _ _).bind_self fun _ => ?_
  exact (Parallel.report _ _).bind_self fun _ => .pure trivial

/-- **Issuing is one work with and without a request**: it is refused for the same cause or not at
all, and uses the same IDs. -/
theorem issue_parallel {draw : Draw} (hid : request.id = messageId draw) (key : String)
    (now : Instant) :
    Parallel (fun _ _ => True) (p.issue request false key now) (p.issue request true key now) := by
  rw [issue_eq_grant, issue_eq_grant]
  exact (p.grant_parallel request key now).bind fun _ _ => dispatch_parallel hsigns hid

end Signing

/-- Issuing ends alike with and without a request, also if there is nothing to sign. -/
theorem issue_agree {draw : Draw} (hid : request.id = messageId draw) {key : String} {now : Instant}
    {s t : Session} (hst : s.SameButLog t)
    (h : p.SignsAlike ∨ ∀ a, ((p.grant request false key now).run s).1 ≠ .ok a) :
    Agree (fun _ _ => True) ((p.issue request false key now).run s).1
      ((p.issue request true key now).run t).1 := by
  rcases h with hsigns | hnone
  · exact (issue_parallel hsigns hid key now s t hst).1
  · have hgrant := (p.grant_parallel request key now s t hst).1
    rw [issue_eq_grant, issue_eq_grant, Step.run_bind, Step.run_bind]
    rcases hfirst : (p.grant request false key now).run s with ⟨first, s'⟩
    rcases hsecond : (p.grant request true key now).run t with ⟨second, t'⟩
    rw [hfirst] at hnone
    rw [hfirst, hsecond] at hgrant
    cases hgrant with
    | @ok a => exact absurd rfl (hnone a)
    | error stop => exact .error stop

/-! ## The answers -/

/-- Issuing comes to a result if all instants are in range. -/
theorem InRange.exists_result_issue {now : Instant} (h : p.InRange request.issueInstant now)
    (solicited : Bool) (key : String) (s : Session) :
    ∃ result, ((p.issue request solicited key now).run s).1 = Stop.ofFallible result := by
  rcases p.run_issue request solicited key now s with ⟨hleft, -⟩ | ⟨result, hresult, -⟩
  · exact absurd h hleft
  · exact ⟨result, hresult⟩

/-- A request of the present instant is issued for as it is: the check for freshness lets it
pass. -/
theorem BuiltFrom.issueFresh_now {c : Config} (built : p.BuiltFrom c) {now : Instant}
    (hrange : p.InRange now now) (hnow : request.issueInstant = now) (key : String) :
    p.issueFresh request key now = p.issue request true key now := by
  have hfresh := checkFreshness_self built (hrange.checkFreshness_ne request.id)
  rw [issueFresh, hnow, hfresh]
  exact pure_bind _ _

/-- A response that is issued, or the cause of a refusal, is what a fresh request is answered with,
and the used IDs are those of issuing. -/
theorem run_respond_of_issue {key : String} {now : Instant} {t : Session}
    {result : Except Fault FinishedResponse} (hrange : p.InRange request.issueInstant now)
    (hfresh : p.issueFresh request key now = p.issue request true key now)
    (h : ((p.issue request true key now).run t).1 = Stop.ofFallible result) :
    ∃ outcome, ((p.respond request key now).run t).1 = .ok outcome ∧ outcome.result = result ∧
      ((p.respond request key now).run t).2.cache
        = ((p.issue request true key now).run t).2.cache := by
  rw [respond_eq, hfresh, Step.run_bind_of_ok (Step.run_catching_of_fallible h),
    (p.settle_blind request now result).cache_eq]
  rcases p.run_settle request now result ((p.issue request true key now).run t).2 with
    ⟨hnone, -⟩ | ⟨outcome, houtcome, hresult⟩
  · have hutc := hrange.written
    rw [hnone] at hutc
    cases hutc
  · exact ⟨outcome, houtcome, hresult, rfl⟩

/-- **Answering without a request agrees with answering a request.**  For a relying party that is
known, answering without a request draws an ID and issues a response.  If the request with this ID
had been sent just now, for the default endpoint, it would be answered from the same used IDs and
random bits as follows: the used IDs are the same afterwards, with the same expiry; an assertion is
granted in both flows, and the two differ in what they answer and in nothing else, or in neither,
for the same cause; and the answer is refused for exactly the same causes, whatever they are.  As to
the causes, the signer counts where it is asked: then it must not tell the two assertions apart, nor
the responses around them, in what it refuses.  It is not asked if there is no assertion or if an
algorithm is denied. -/
theorem authenticate_agrees_with_respond {c : Config} (built : p.BuiltFrom c)
    {sp : ServiceProviderConfig} (hsp : sp ∈ c.serviceProviders) {now : Instant}
    (hrange : p.InRange now now) (key : String) (s : Session) :
    ∃ url request result outcome, sp.acsUrls.head? = some url ∧
      request = ⟨s.upcomingId 0, sp.entityId, url, now, none⟩ ∧
      ((p.authenticate key sp.entityId now).run s).1 = Stop.ofFallible result ∧
      ((p.respond request key now).run { s with drawn := s.drawn + 1 }).1 = .ok outcome ∧
      ((p.authenticate key sp.entityId now).run s).2.cache
        = ((p.respond request key now).run { s with drawn := s.drawn + 1 }).2.cache ∧
      Agree (Assertion.Answers request.id) ((p.grant request false key now).run s.opened).1
        ((p.grant request true key now).run { s with drawn := s.drawn + 1 }).1 ∧
      ((∀ a, ((p.grant request false key now).run s.opened).1 ≠ .ok a) ∨
          p.denied.firstDenied? p.options ≠ none ∨ p.RefusesAlike →
        ∀ cause, result = .error cause ↔ outcome.result = .error cause) := by
  obtain ⟨url, hhead, himplied⟩ := built.exists_impliedRequest hsp (s.upcomingId 0) now
  obtain ⟨request, hrequest⟩ : ∃ request : ReceivedRequest,
      request = ⟨s.upcomingId 0, sp.entityId, url, now, none⟩ := ⟨_, rfl⟩
  rw [← hrequest] at himplied
  have hid : request.id = messageId (s.draws s.drawn) := by rw [hrequest]; rfl
  have hnow : request.issueInstant = now := by rw [hrequest]
  have hrange' : p.InRange request.issueInstant now := hnow.symm ▸ hrange
  obtain ⟨hresult, hcache⟩ := run_authenticate_of_implied himplied key
  have hsame : s.opened.SameButLog { s with drawn := s.drawn + 1 } := ⟨rfl, rfl, rfl⟩
  have hgrant := p.grant_parallel request key now _ _ hsame
  obtain ⟨result, hissued⟩ := hrange'.exists_result_issue false key s.opened
  obtain ⟨answered, hanswered⟩ :=
    hrange'.exists_result_issue true key { s with drawn := s.drawn + 1 }
  obtain ⟨outcome, houtcome, rfl, hused⟩ := run_respond_of_issue hrange'
    (built.issueFresh_now hrange hnow key) hanswered
  refine ⟨url, request, result, outcome, hhead, hrequest, hresult.trans hissued, houtcome, ?_,
    hgrant.1, fun h cause => ?_⟩
  · rw [hcache, hused, cache_issue_eq_grant, cache_issue_eq_grant]
    exact hgrant.2.cache
  · have hsigns : p.SignsAlike ∨ ∀ a, ((p.grant request false key now).run s.opened).1 ≠ .ok a := by
      rcases h with hnone | hdenied | hrefuses
      · exact .inr hnone
      · obtain ⟨uri, huri⟩ := Option.ne_none_iff_exists'.1 hdenied
        exact .inl (signsAlike_of_denied huri)
      · exact .inl (signsAlike_of_refusesAlike hrefuses)
    have hagree := issue_agree hid hsame hsigns
    rw [hissued, hanswered] at hagree
    have hrefused := hagree.error_iff (.refused cause)
    rwa [Stop.ofFallible_eq_refused_iff, Stop.ofFallible_eq_refused_iff] at hrefused

/-- The configuration of `campus`, with a name that no document can have in it. -/
def garbledConfig : Config := { campusConfig with entityId := "https://idp.example\x01" }

/-- The provider of `garbledConfig`, with a signer that reads what it signs. -/
def garbled : IdentityProvider :=
  { campus with entityId := "https://idp.example\x01", signer := .reading }

theorem builtFrom_garbled : garbled.BuiltFrom garbledConfig :=
  ⟨blankKey, .reading, garbled, .default, rfl, rfl⟩

theorem inRange_garbled : garbled.InRange noon noon := inRange_solo.of_windows rfl rfl rfl

theorem refusesAlike_garbled : garbled.RefusesAlike := refusesAlike_of_reading rfl

/-- A session of which nothing is used yet, with random bits that count up. -/
def counting : Session := .start (BitVec.ofNat 128)

/-- The signer of `garbled` refuses the assertion about its user, which is no document. -/
theorem run_authenticate_garbled :
    ((garbled.authenticate "user1:password" "https://sp.example" noon).run counting).1
      = .error (.refused (.malformedXml "GotNullPtr")) := by
  have hknown : garbled.resolver.resolve "user1:password"
      = .ok ⟨"user1:password", "user1", .ofList [("uid", ["u1"])], .ofList [("uid", ["u1"])]⟩ := by
    rw [Resolver.resolve, Directory.identity?_eq_findRev?]
    rfl
  have himplied : garbled.impliedRequest "https://sp.example" (counting.upcomingId 0) noon
      = .ok ⟨counting.upcomingId 0, "https://sp.example", "https://sp.example/acs", noon, none⟩ :=
    rfl
  rw [(run_authenticate_of_implied himplied _).1, issue_eq_grant, grant, authenticated, hknown]
  decide +kernel

/-- The signer of `garbled` is asked and refuses, and so it does if there is a request, with the
same IDs used up. -/
theorem authenticate_agrees_with_respond_garbled :
    garbled.BuiltFrom garbledConfig ∧ garbled.InRange noon noon ∧ garbled.RefusesAlike ∧
      ((garbled.authenticate "user1:password" "https://sp.example" noon).run counting).1
        = .error (.refused (.malformedXml "GotNullPtr")) ∧
      ∃ request outcome,
        ((garbled.respond request "user1:password" noon).run { counting with drawn := 1 }).1
          = .ok outcome ∧
        outcome.result = .error (.malformedXml "GotNullPtr") ∧
        ((garbled.authenticate "user1:password" "https://sp.example" noon).run counting).2.cache
          = ((garbled.respond request "user1:password" noon).run
            { counting with drawn := 1 }).2.cache ∧
        Agree (Assertion.Answers request.id)
          ((garbled.grant request false "user1:password" noon).run counting.opened).1
          ((garbled.grant request true "user1:password" noon).run { counting with drawn := 1 }).1 := by
  have hsp : (⟨"https://sp.example", ["https://sp.example/acs"], none, false⟩ :
      ServiceProviderConfig) ∈ garbledConfig.serviceProviders := List.mem_cons_self
  obtain ⟨url, request, result, outcome, -, -, hresult, houtcome, hcache, hagree, hcauses⟩ :=
    authenticate_agrees_with_respond builtFrom_garbled hsp inRange_garbled "user1:password" counting
  have hrefused : result = .error (.malformedXml "GotNullPtr") :=
    Stop.ofFallible_eq_refused_iff.1 (hresult.symm.trans run_authenticate_garbled)
  exact ⟨builtFrom_garbled, inRange_garbled, refusesAlike_garbled, run_authenticate_garbled,
    request, outcome, houtcome, (hcauses (.inr (.inr refusesAlike_garbled)) _).1 hrefused, hcache,
    hagree⟩

end IdentityProvider

end WebSso
