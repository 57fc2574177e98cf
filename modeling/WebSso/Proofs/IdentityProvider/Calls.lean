import WebSso.Proofs.IdentityProvider.Respond

/-!
# Sequences of calls

Providers that share a cache are called one after the other: to answer requests, to answer without
one, and to sweep the cache.  Whatever a call does, it does to the cache at the instant it is made,
so that an ID which is remembered outlasts all calls that are made before it expires.

## What is here

* `ProviderCall` and `Session.after`, a call and a session after a sequence of calls;
* `ProviderCall.exists_uses`, what a call does to the cache;
* `Session.held_after`: an ID is held as long as the calls come before its instant.
-/

set_option autoImplicit false
namespace WebSso

/-- A call of a provider, or a sweep of the cache that providers share. -/
inductive ProviderCall where
  /-- A request is answered. -/
  | respond (p : IdentityProvider) (request : ReceivedRequest) (key : String) (now : Instant)
  /-- A relying party is answered that sent no request. -/
  | authenticate (p : IdentityProvider) (key audience : String) (now : Instant)
  /-- The cache is swept. -/
  | purge (now : Instant)

namespace ProviderCall

/-- The instant at which a call is made. -/
def now : ProviderCall → Instant
  | respond _ _ _ now | authenticate _ _ _ now | purge now => now

/-- The provider that is called, if it is not a sweep. -/
def provider? : ProviderCall → Option IdentityProvider
  | respond p _ _ _ | authenticate p _ _ _ => some p
  | purge _ => none

/-- The session that a call leaves. -/
def leaves (s : Session) : ProviderCall → Session
  | respond p request key now => ((p.respond request key now).run s).2
  | authenticate p key audience now => ((p.authenticate key audience now).run s).2
  | purge now => ((Step.purge now).run s).2

end ProviderCall

/-- The session after some calls. -/
def Session.after (s : Session) (calls : List ProviderCall) : Session :=
  calls.foldl ProviderCall.leaves s

namespace IdentityProvider

theorem respond_usesAt (p : IdentityProvider) (request : ReceivedRequest) (key : String)
    (now : Instant) : (p.respond request key now).UsesAt now := by
  rw [respond_eq]
  have hissue : (p.issueFresh request key now).UsesAt now :=
    ((Step.Reports.attempt rfl).blind.usesAt now).bind fun _ => p.issue_usesAt request true key now
  exact hissue.catching.bind fun issued => (p.settle_blind request now issued).usesAt now

theorem authenticate_usesAt (p : IdentityProvider) (key audience : String) (now : Instant) :
    (p.authenticate key audience now).UsesAt now := by
  refine (Step.Blind.drawId.usesAt now).bind fun id => ?_
  refine ((Step.Reports.attempt rfl).blind.usesAt now).bind fun request => ?_
  refine ((Step.Reports.report _).blind.usesAt now).bind fun _ => ?_
  refine (p.issue_usesAt request false key now).catching.bind fun issued => ?_
  cases issued with
  | ok response => exact (Step.Reports.pure response).blind.usesAt now
  | error cause =>
    refine ((Step.Reports.report _).blind.usesAt now).bind fun _ => ?_
    exact (Step.Reports.attempt rfl).blind.usesAt now

end IdentityProvider

/-- **What a call does to the cache**, it does at the instant at which it is made. -/
theorem ProviderCall.exists_uses (call : ProviderCall) (s : Session) :
    ∃ uses : List CacheCall, (∀ use ∈ uses, use.now = call.now) ∧
      (call.leaves s).cache = s.cache.after uses := by
  cases call with
  | respond p request key now => exact p.respond_usesAt request key now s
  | authenticate p key audience now => exact p.authenticate_usesAt key audience now s
  | purge now => exact Step.UsesAt.purge s

namespace Session

@[simp] theorem after_nil (s : Session) : s.after [] = s := rfl

@[simp] theorem after_cons (s : Session) (call : ProviderCall) (rest : List ProviderCall) :
    s.after (call :: rest) = (call.leaves s).after rest := rfl

/-- **An ID is held through all calls that come before its instant.** -/
theorem held_after {id : String} {expiry : Instant} : ∀ (calls : List ProviderCall) (s : Session),
    s.cache.expiry? id = some expiry → (∀ call ∈ calls, call.now < expiry) →
    (s.after calls).cache.expiry? id = some expiry
  | [], _, h, _ => h
  | call :: rest, s, h, hlt => by
    obtain ⟨uses, huses, hcache⟩ := call.exists_uses s
    have hcall : call.now < expiry := hlt call List.mem_cons_self
    have hnext : (call.leaves s).cache.expiry? id = some expiry := by
      rw [hcache]
      exact (ReplayCache.held_after uses s.cache h fun use hu _ => huses use hu ▸ hcall).1
    exact held_after rest (call.leaves s) hnext fun x hx => hlt x (List.mem_cons_of_mem _ hx)

end Session

end WebSso
