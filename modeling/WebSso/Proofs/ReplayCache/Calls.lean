import WebSso.Proofs.ReplayCache.Lookup

/-!
# Sequences of uses of a cache

A cache is used by observing IDs, asking for them and purging it.  Each use is one step that nothing
comes between, so whatever the users of a cache do, it amounts to a sequence of uses.

## What is here

* `CacheCall` and `CacheAnswer`, a use of a cache and what it tells;
* `ReplayCache.answer` and `ReplayCache.next`, what one use tells and what it leaves, and
  `ReplayCache.after` and `ReplayCache.trace`, the same for a sequence;
* `taken`, the observations of an ID that were taken, as a trace shows them;
* `ReplayCache.contains_next` and `ReplayCache.contains_after`: after a sequence, an ID is
  remembered as its last taken observation says;
* `ReplayCache.expiry?_next` and `ReplayCache.held_after`: an ID that is remembered keeps its
  instant and is not taken, as long as that instant is to come;
* `ReplayCache.expiry?_of_next`: only an observation of an ID can make it known.
-/

set_option autoImplicit false
namespace WebSso

/-! ## Uses and traces -/

/-- A use of a cache. -/
inductive CacheCall where
  /-- Takes an ID until an instant, unless it is remembered. -/
  | observe (id : String) (expiry now : Instant)
  /-- Asks whether an ID is remembered. -/
  | contains (id : String) (now : Instant)
  /-- Drops the IDs that are no longer remembered. -/
  | purge (now : Instant)
  deriving DecidableEq

namespace CacheCall

/-- The instant at which a use is made. -/
def now : CacheCall → Instant
  | observe _ _ now | contains _ now | purge now => now

/-- Whether a use is a purge. -/
def isPurge : CacheCall → Bool
  | purge _ => true
  | _ => false

/-- The ID that a use observes, if it observes one. -/
def observed? : CacheCall → Option String
  | observe id _ _ => some id
  | _ => none

/-- A use that can change what is known of an ID: it observes the ID or purges. -/
def Concerns (id : String) (call : CacheCall) : Prop :=
  call.observed? = some id ∨ call.isPurge = true

end CacheCall

/-- What a use of a cache tells. -/
inductive CacheAnswer where
  /-- Whether an ID was taken, or is remembered. -/
  | yesNo (answer : Bool)
  /-- How many entries went. -/
  | count (n : Nat)
  deriving DecidableEq

/-- The instant until which a use took an ID, if it did. -/
def takenUntil? (id : String) : CacheCall × CacheAnswer → Option Instant
  | (.observe x expiry _, .yesNo true) => if x = id then some expiry else none
  | _ => none

/-- The instants until which an ID was taken in a trace, first to last. -/
def taken (id : String) (trace : List (CacheCall × CacheAnswer)) : List Instant :=
  trace.filterMap (takenUntil? id)

namespace ReplayCache

/-- What a use of a cache tells. -/
def answer (c : ReplayCache) : CacheCall → CacheAnswer
  | .observe id expiry now => .yesNo (c.observe id expiry now).1
  | .contains id now => .yesNo (c.contains id now)
  | .purge now => .count (c.purgeCount now)

/-- The cache that a use leaves. -/
def next (c : ReplayCache) : CacheCall → ReplayCache
  | .observe id expiry now => (c.observe id expiry now).2
  | .contains _ _ => c
  | .purge now => c.purge now

/-- The cache that a sequence of uses leaves. -/
def after (c : ReplayCache) (calls : List CacheCall) : ReplayCache := calls.foldl next c

/-- A sequence of uses, each with what it told. -/
def trace (c : ReplayCache) : List CacheCall → List (CacheCall × CacheAnswer)
  | [] => []
  | call :: rest => (call, c.answer call) :: (c.next call).trace rest

@[simp] theorem after_nil (c : ReplayCache) : c.after [] = c := rfl

@[simp] theorem after_cons (c : ReplayCache) (call : CacheCall) (rest : List CacheCall) :
    c.after (call :: rest) = (c.next call).after rest := rfl

theorem after_append (c : ReplayCache) (first second : List CacheCall) :
    c.after (first ++ second) = (c.after first).after second :=
  List.foldl_append

theorem taken_trace_cons (c : ReplayCache) (id : String) (call : CacheCall)
    (rest : List CacheCall) :
    taken id (c.trace (call :: rest))
      = (takenUntil? id (call, c.answer call)).toList ++ taken id ((c.next call).trace rest) := by
  rw [trace, taken, List.filterMap_cons]
  cases takenUntil? id (call, c.answer call) with
  | none => rfl
  | some expiry => rfl

/-! ## One use -/

/-- **What a use does to an ID.**  It is remembered until the instant for which the use took it; if
the use did not, it is remembered as before, by all who ask no earlier than a purge. -/
theorem contains_next {c : ReplayCache} {call : CacheCall} {now : Instant}
    (h : call.isPurge = true → call.now ≤ now) (id : String) :
    (c.next call).contains id now
      = (takenUntil? id (call, c.answer call)).elim (c.contains id now)
          fun expiry => decide (now < expiry) := by
  cases call with
  | observe x expiry t =>
    cases hx : c.contains x t with
    | true => rw [next, answer, observe_of_contains hx]; rfl
    | false =>
      rw [next, answer, observe_of_not_contains hx, contains_record, takenUntil?]
      by_cases hid : x = id
      · rw [if_pos hid, if_pos hid.symm]; rfl
      · rw [if_neg hid, if_neg (Ne.symm hid)]; rfl
  | contains x t => rfl
  | purge t => exact contains_purge (h rfl)

/-- **An ID is kept until its instant.**  A use that comes before that instant neither changes it
nor takes the ID again. -/
theorem expiry?_next {c : ReplayCache} {id : String} {expiry : Instant} {call : CacheCall}
    (h : c.expiry? id = some expiry) (hlt : call.Concerns id → call.now < expiry) :
    (c.next call).expiry? id = some expiry ∧ takenUntil? id (call, c.answer call) = none := by
  cases call with
  | observe x e t =>
    cases hx : c.contains x t with
    | true =>
      rw [next, answer, observe_of_contains hx]
      exact ⟨h, rfl⟩
    | false =>
      -- it is another ID that is taken, since this one is remembered
      have hne : id ≠ x := by
        rintro rfl
        rw [contains_eq_decide h, decide_eq_false_iff_not] at hx
        exact hx (hlt (Or.inl rfl))
      rw [next, answer, observe_of_not_contains hx, expiry?_record_of_ne hne, takenUntil?,
        if_neg hne.symm]
      exact ⟨h, rfl⟩
  | contains x t => exact ⟨h, rfl⟩
  | purge t => exact ⟨expiry?_purge_eq_some_iff.2 ⟨h, hlt (Or.inr rfl)⟩, rfl⟩

/-- A use that does not observe an ID does not take it, and makes it forgotten at most. -/
theorem expiry?_of_next (c : ReplayCache) {id : String} {call : CacheCall}
    (h : call.observed? ≠ some id) :
    takenUntil? id (call, c.answer call) = none ∧
      ∀ expiry, (c.next call).expiry? id = some expiry → c.expiry? id = some expiry := by
  cases call with
  | observe x e t =>
    have hne : x ≠ id := fun hx => h (congrArg some hx)
    cases hx : c.contains x t with
    | true =>
      rw [next, answer, observe_of_contains hx]
      exact ⟨rfl, fun _ he => he⟩
    | false =>
      rw [next, answer, observe_of_not_contains hx, expiry?_record_of_ne hne.symm, takenUntil?,
        if_neg hne]
      exact ⟨rfl, fun _ he => he⟩
  | contains x t => exact ⟨rfl, fun _ he => he⟩
  | purge t => exact ⟨rfl, fun _ he => (expiry?_purge_eq_some_iff.1 he).1⟩

/-! ## Sequences of uses -/

/-- **What a sequence does to an ID.**  For all who ask no earlier than its purges, the ID is
remembered until the instant for which it was last taken, or as before if it was not. -/
theorem contains_after {now : Instant} (id : String) : ∀ (calls : List CacheCall) (c : ReplayCache),
    (∀ call ∈ calls, call.isPurge = true → call.now ≤ now) →
    (c.after calls).contains id now
      = (taken id (c.trace calls)).getLast?.elim (c.contains id now)
          fun expiry => decide (now < expiry)
  | [], _, _ => rfl
  | call :: rest, c, h => by
    have hrest := contains_after id rest (c.next call) fun x hx => h x (List.mem_cons_of_mem _ hx)
    rw [after_cons, hrest, contains_next (h call List.mem_cons_self), taken_trace_cons]
    cases hl : (taken id ((c.next call).trace rest)).getLast? with
    | some expiry => rw [List.getLast?_append, hl]; rfl
    | none =>
      rw [List.getLast?_eq_none_iff] at hl
      rw [hl, List.append_nil]
      cases takenUntil? id (call, c.answer call) with
      | none => rfl
      | some expiry => rfl

/-- **An ID that is remembered is held.**  As long as its instant is to come, no sequence of uses
changes it or takes the ID again. -/
theorem held_after {id : String} {expiry : Instant} : ∀ (calls : List CacheCall) (c : ReplayCache),
    c.expiry? id = some expiry → (∀ call ∈ calls, call.Concerns id → call.now < expiry) →
    (c.after calls).expiry? id = some expiry ∧ taken id (c.trace calls) = []
  | [], _, h, _ => ⟨h, rfl⟩
  | call :: rest, c, h, hlt => by
    obtain ⟨hnext, hnone⟩ := expiry?_next h (hlt call List.mem_cons_self)
    obtain ⟨hafter, htaken⟩ :=
      held_after rest (c.next call) hnext fun x hx => hlt x (List.mem_cons_of_mem _ hx)
    rw [after_cons, taken_trace_cons, hnone, htaken]
    exact ⟨hafter, rfl⟩

end ReplayCache

end WebSso
