import Mathlib.Data.List.Perm.Basic
import WebSso.Proofs.ReplayCache.Calls

/-!
# One winner

Several callers want one ID, each by a clock of its own and until an instant of its own.  Every use
of the cache is one step, so whatever the threads do, their uses come in some order, among uses by
others.  This file shows that the order does not matter: as long as nobody comes late, exactly one
caller is told that the ID is theirs.

## What is here

* `Caller` and `Caller.call`, who wants an ID and the use they make;
* `Contested`, a sequence in which all that concerns an ID comes before every instant for which it
  is wanted;
* `ReplayCache.exists_taken`: whoever comes first takes the ID, and everybody after them finds it
  taken;
* `ReplayCache.one_winner`, the same for every order of the callers and of the others.
-/

set_option autoImplicit false
namespace WebSso

/-- Somebody who wants an ID. -/
structure Caller where
  /-- Until when. -/
  expiry : Instant
  /-- Their clock. -/
  now : Instant
  deriving DecidableEq

/-- The use that a caller makes of the cache. -/
def Caller.call (id : String) (k : Caller) : CacheCall := .observe id k.expiry k.now

theorem Caller.call_injective {id : String} {j k : Caller} (h : j.call id = k.call id) : j = k := by
  rw [call, call, CacheCall.observe.injEq] at h
  obtain ⟨-, hexpiry, hnow⟩ := h
  cases j
  cases k
  rw [Caller.mk.injEq]
  exact ⟨hexpiry, hnow⟩

/-- Whatever observes an ID is the use of some caller. -/
theorem Caller.exists_call {id : String} {call : CacheCall} (h : call.observed? = some id) :
    ∃ k : Caller, call = k.call id := by
  cases call with
  | observe x expiry now => exact ⟨⟨expiry, now⟩, by rw [Caller.call, Option.some.inj h]⟩
  | contains x now => cases h
  | purge now => cases h

/-- All that concerns an ID comes before every instant for which it is wanted. -/
def Contested (id : String) (calls : List CacheCall) : Prop :=
  ∀ k : Caller, k.call id ∈ calls → ∀ call ∈ calls, call.Concerns id → call.now < k.expiry

theorem Contested.tail {id : String} {call : CacheCall} {rest : List CacheCall}
    (h : Contested id (call :: rest)) : Contested id rest :=
  fun k hk x hx => h k (List.mem_cons_of_mem _ hk) x (List.mem_cons_of_mem _ hx)

namespace ReplayCache

/-- The first caller takes an ID that nobody holds, and it is held from then on. -/
theorem exists_taken_of_first {id : String} {k : Caller} {rest : List CacheCall} {c : ReplayCache}
    (h : Contested id (k.call id :: rest)) (free : c.contains id k.now = false) :
    taken id (c.trace (k.call id :: rest)) = [k.expiry] ∧
      (c.after (k.call id :: rest)).expiry? id = some k.expiry := by
  have hnext : (c.next (k.call id)).expiry? id = some k.expiry := by
    rw [Caller.call, next, observe_of_not_contains free]
    exact expiry?_record_self c id k.expiry
  have hanswer : takenUntil? id (k.call id, c.answer (k.call id)) = some k.expiry := by
    rw [Caller.call, answer, observe_of_not_contains free, takenUntil?, if_pos rfl]
  have hlt : ∀ call ∈ rest, call.Concerns id → call.now < k.expiry :=
    fun call hcall => h k List.mem_cons_self call (List.mem_cons_of_mem _ hcall)
  obtain ⟨hafter, htaken⟩ := held_after rest (c.next (k.call id)) hnext hlt
  rw [taken_trace_cons, hanswer, htaken]
  exact ⟨rfl, hafter⟩

/-- **Whoever comes first wins.**  If an ID that is contested is free for all who want it, it is
taken once, by one of them, and held until the instant for which they want it. -/
theorem exists_taken {id : String} : ∀ (calls : List CacheCall) (c : ReplayCache),
    (∃ k : Caller, k.call id ∈ calls) → Contested id calls →
    (∀ k : Caller, k.call id ∈ calls → c.contains id k.now = false) →
    ∃ k : Caller, k.call id ∈ calls ∧ taken id (c.trace calls) = [k.expiry] ∧
      (c.after calls).expiry? id = some k.expiry
  | [], _, ⟨_, hk⟩, _, _ => absurd hk List.not_mem_nil
  | call :: rest, c, hsome, hcontested, hfree => by
    by_cases hcall : call.observed? = some id
    · obtain ⟨k, rfl⟩ := Caller.exists_call hcall
      have free : c.contains id k.now = false := hfree k List.mem_cons_self
      exact ⟨k, List.mem_cons_self, exists_taken_of_first hcontested free⟩
    · -- the ID is not observed yet, so it is still free for all who want it
      obtain ⟨hnone, hnext⟩ := expiry?_of_next c hcall
      have hrest : ∃ k : Caller, k.call id ∈ rest := by
        obtain ⟨k, hk⟩ := hsome
        refine ⟨k, (List.mem_cons.1 hk).resolve_left ?_⟩
        rintro rfl
        exact hcall rfl
      have hfree' : ∀ k : Caller, k.call id ∈ rest → (c.next call).contains id k.now = false := by
        intro k hk
        rw [contains_eq_false_iff]
        intro expiry he
        exact contains_eq_false_iff.1 (hfree k (List.mem_cons_of_mem _ hk)) expiry (hnext expiry he)
      obtain ⟨k, hk, htaken, hafter⟩ :=
        exists_taken rest (c.next call) hrest hcontested.tail hfree'
      refine ⟨k, List.mem_cons_of_mem _ hk, ?_, hafter⟩
      rw [taken_trace_cons, hnone, htaken]
      rfl

/-- **One winner in every order.**  Any number of callers want an ID, none of them and no purge as
late as any instant for which it is wanted, and nobody holds it when they come.  In whatever order
they and the others use the cache, exactly one of the callers is told that the ID was taken, and it
is remembered until the instant for which that one wanted it. -/
theorem one_winner {c : ReplayCache} {id : String} {callers : List Caller}
    {others calls : List CacheCall} (someone : callers ≠ [])
    (elsewhere : ∀ call ∈ others, call.observed? ≠ some id)
    (interleaved : calls.Perm (callers.map (Caller.call id) ++ others))
    (early : ∀ k ∈ callers, ∀ j ∈ callers, j.now < k.expiry)
    (purged : ∀ k ∈ callers, ∀ call ∈ others, call.isPurge = true → call.now < k.expiry)
    (free : ∀ k ∈ callers, c.contains id k.now = false) :
    ∃ winner ∈ callers, taken id (c.trace calls) = [winner.expiry] ∧
      ∀ now, (c.after calls).contains id now = true ↔ now < winner.expiry := by
  have hmem : ∀ k : Caller, k.call id ∈ calls ↔ k ∈ callers := by
    intro k
    rw [interleaved.mem_iff, List.mem_append, List.mem_map]
    constructor
    · rintro (⟨j, hj, hjk⟩ | hk)
      · rwa [← Caller.call_injective hjk]
      · exact absurd rfl (elsewhere _ hk)
    · exact fun hk => Or.inl ⟨k, hk, rfl⟩
  have hcontested : Contested id calls := by
    intro k hk call hcall hconcerns
    have hk := (hmem k).1 hk
    rw [interleaved.mem_iff, List.mem_append, List.mem_map] at hcall
    rcases hcall with ⟨j, hj, rfl⟩ | hcall
    · exact early k hk j hj
    · exact purged k hk call hcall (hconcerns.resolve_left (elsewhere call hcall))
  have hsome : ∃ k : Caller, k.call id ∈ calls := by
    obtain ⟨k, hk⟩ := List.exists_mem_of_ne_nil callers someone
    exact ⟨k, (hmem k).2 hk⟩
  obtain ⟨winner, hwinner, htaken, hafter⟩ :=
    exists_taken calls c hsome hcontested fun k hk => free k ((hmem k).1 hk)
  refine ⟨winner, (hmem winner).1 hwinner, htaken, fun now => ?_⟩
  rw [contains_eq_decide hafter, decide_eq_true_eq]

/-- Two callers whose clocks differ. -/
def twoCallers : List Caller :=
  [⟨⟨9, 0, (by decide : Shown 9)⟩, ⟨2, 0, (by decide : Shown 2)⟩⟩,
    ⟨⟨8, 0, (by decide : Shown 8)⟩, ⟨5, 0, (by decide : Shown 5)⟩⟩]

/-- Somebody who asks, a purge, and somebody who takes another ID. -/
def bystanders : List CacheCall :=
  [.contains "_r" .epoch, .purge ⟨7, 0, (by decide : Shown 7)⟩,
    .observe "_x" .epoch ⟨9, 0, (by decide : Shown 9)⟩]

/-- An order in which the caller whose clock is ahead comes first, and the other one last. -/
def mixedOrder : List CacheCall :=
  [.contains "_r" .epoch,
    .observe "_r" ⟨8, 0, (by decide : Shown 8)⟩ ⟨5, 0, (by decide : Shown 5)⟩,
    .purge ⟨7, 0, (by decide : Shown 7)⟩, .observe "_x" .epoch ⟨9, 0, (by decide : Shown 9)⟩,
    .observe "_r" ⟨9, 0, (by decide : Shown 9)⟩ ⟨2, 0, (by decide : Shown 2)⟩]

/-- Two callers want an ID whose entry has expired, among bystanders. -/
theorem one_winner_of_two :
    mixedOrder.Perm (twoCallers.map (Caller.call "_r") ++ bystanders) ∧
      ∃ winner ∈ twoCallers, taken "_r" ((empty.record "_r" .epoch).trace mixedOrder)
          = [winner.expiry] ∧
        ∀ now, ((empty.record "_r" .epoch).after mixedOrder).contains "_r" now = true
          ↔ now < winner.expiry := by
  have hperm : mixedOrder.Perm (twoCallers.map (Caller.call "_r") ++ bystanders) := by decide
  exact ⟨hperm, one_winner (by decide) (by decide) hperm (by decide) (by decide) (by decide)⟩

end ReplayCache

end WebSso
