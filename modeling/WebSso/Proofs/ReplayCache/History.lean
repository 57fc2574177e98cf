import WebSso.Proofs.ReplayCache.Calls

/-!
# A cache answers from its history

The entries of a cache come and go: an entry that has expired is overwritten when its ID is taken
again, and disappears when the cache is purged.  Its users see nothing of that.  As long as the
clock does not go back, every answer is the one that the observations taken so far call for, and a
purge changes none of them.

## What is here

* `Chronological`, a sequence of uses in which the clock does not go back;
* `lastTaken?`, until when an ID was taken last, and `Accounted`, the answer of a use that this
  calls for;
* `ReplayCache.accounted_after`: every use of a new cache is accounted for by the uses before it;
* `ReplayCache.told_trace`: without its purges, a sequence is told the same;
* `ReplayCache.answers_from_history`, both together.
-/

set_option autoImplicit false
namespace WebSso

/-- The clock does not go back from use to use. -/
def Chronological (calls : List CacheCall) : Prop := calls.Pairwise fun a b => a.now ≤ b.now

instance (calls : List CacheCall) : Decidable (Chronological calls) :=
  inferInstanceAs (Decidable (calls.Pairwise _))

/-- The instant until which an ID was taken last, if it was taken. -/
def lastTaken? (id : String) (history : List (CacheCall × CacheAnswer)) : Option Instant :=
  (taken id history).getLast?

/-- What the uses that are asked for something were told. -/
def told (trace : List (CacheCall × CacheAnswer)) : List (CacheCall × CacheAnswer) :=
  trace.filter fun e => !e.1.isPurge

/-- A use of the cache `c` is answered as the history that led to `c` calls for.  An ID is taken if
it was never taken or its last instant has come; it is remembered if its last instant is to come;
and a purge leaves the IDs whose last instant is to come, and tells how many entries went. -/
def Accounted (history : List (CacheCall × CacheAnswer)) (c : ReplayCache) : CacheCall → Prop
  | .observe id expiry now =>
    c.answer (.observe id expiry now) = .yesNo true
      ↔ ∀ last, lastTaken? id history = some last → last ≤ now
  | .contains id now =>
    c.answer (.contains id now) = .yesNo true
      ↔ ∃ last, lastTaken? id history = some last ∧ now < last
  | .purge now =>
    (∃ count, c.answer (.purge now) = .count count ∧ count + (c.next (.purge now)).size = c.size) ∧
      ∀ id, id ∈ (c.next (.purge now)).entries.map (·.1)
        ↔ ∃ last, lastTaken? id history = some last ∧ now < last

namespace ReplayCache

/-! ## Answers and the history -/

/-- A new cache remembers what its history says, for all who ask no earlier than its purges. -/
theorem contains_after_empty {calls : List CacheCall} {now : Instant}
    (h : ∀ call ∈ calls, call.now ≤ now) (id : String) :
    (empty.after calls).contains id now = true
      ↔ ∃ last, lastTaken? id (empty.trace calls) = some last ∧ now < last := by
  rw [contains_after id calls empty fun call hcall _ => h call hcall, lastTaken?]
  cases (taken id (empty.trace calls)).getLast? with
  | none => simp [contains]
  | some last => simp

/-- An ID is taken exactly if it is not remembered. -/
theorem answer_observe {c : ReplayCache} {id : String} {expiry now : Instant} :
    c.answer (.observe id expiry now) = .yesNo true ↔ c.contains id now = false := by
  cases h : c.contains id now with
  | true => simp [answer, observe_of_contains h]
  | false => simp [answer, observe_of_not_contains h]

/-- The IDs that a purge leaves are the ones that are remembered. -/
theorem mem_ids_purge {c : ReplayCache} {id : String} {now : Instant} :
    id ∈ (c.purge now).entries.map (·.1) ↔ c.contains id now = true := by
  rw [contains_iff, List.mem_map]
  constructor
  · rintro ⟨⟨x, expiry⟩, hmem, rfl⟩
    exact ⟨expiry, expiry?_purge_eq_some_iff.1 (expiry?_eq_some_iff.2 hmem)⟩
  · rintro ⟨expiry, he, hlt⟩
    exact ⟨(id, expiry), expiry?_eq_some_iff.1 (expiry?_purge_eq_some_iff.2 ⟨he, hlt⟩), rfl⟩

/-- Every use of a new cache is accounted for by the uses before it. -/
theorem accounted_after {before : List CacheCall} {call : CacheCall}
    (h : ∀ x ∈ before, x.now ≤ call.now) :
    Accounted (empty.trace before) (empty.after before) call := by
  cases call with
  | observe id expiry now =>
    have hc := contains_after_empty h id
    rw [Accounted, answer_observe, ← Bool.not_eq_true]
    rw [CacheCall.now] at hc
    rw [hc]
    simp only [not_exists, not_and, Instant.not_lt]
  | contains id now =>
    rw [Accounted, answer, CacheAnswer.yesNo.injEq]
    exact contains_after_empty h id
  | purge now =>
    refine ⟨⟨_, rfl, purgeCount_add_size _ now⟩, fun id => ?_⟩
    rw [next, mem_ids_purge]
    exact contains_after_empty h id

/-! ## Purges make no difference -/

/-- Two caches that remember the same from an instant on. -/
def SameFrom (start : Instant) (c d : ReplayCache) : Prop :=
  ∀ id now, start ≤ now → c.contains id now = d.contains id now

/-- A use that is asked for something is told the same by both, and leaves them the same. -/
theorem SameFrom.step {start : Instant} {c d : ReplayCache} (h : SameFrom start c d)
    {call : CacheCall} (hcall : start ≤ call.now) (hpurge : call.isPurge = false) :
    c.answer call = d.answer call ∧ SameFrom call.now (c.next call) (d.next call) := by
  have hanswer : c.answer call = d.answer call := by
    cases call with
    | observe id expiry now =>
      have hid := h id now hcall
      rw [answer, answer, observe, observe, hid]
      cases d.contains id now with
      | true => rfl
      | false => rfl
    | contains id now => rw [answer, answer, h id now hcall]
    | purge now => cases hpurge
  refine ⟨hanswer, fun id now hnow => ?_⟩
  have hp : call.isPurge = true → call.now ≤ now := fun _ => hnow
  rw [contains_next hp, contains_next hp, hanswer, h id now (le_trans hcall hnow)]

/-- A purge leaves a cache the same from then on. -/
theorem SameFrom.purge {start : Instant} {c d : ReplayCache} (h : SameFrom start c d)
    {now : Instant} (hnow : start ≤ now) : SameFrom now (c.purge now) d := fun id t ht => by
  rw [contains_purge ht, h id t (le_trans hnow ht)]

/-- Without its purges, a sequence is told the same. -/
theorem told_trace : ∀ (calls : List CacheCall) {start : Instant} {c d : ReplayCache},
    SameFrom start c d → (∀ call ∈ calls, start ≤ call.now) → Chronological calls →
    told (c.trace calls) = d.trace (calls.filter fun call => !call.isPurge)
  | [], _, _, _, _, _, _ => rfl
  | call :: rest, start, c, d, h, hstart, hchron => by
    obtain ⟨hle, hrest⟩ := List.pairwise_cons.1 hchron
    have hcall := hstart call List.mem_cons_self
    cases hp : call.isPurge with
    | true =>
      cases call with
      | purge now =>
        have ih := told_trace rest (h.purge hcall) hle hrest
        rw [trace, told, List.filter_cons_of_neg (by simp [hp]),
          List.filter_cons_of_neg (by simp [hp])]
        exact ih
      | observe _ _ _ => cases hp
      | contains _ _ => cases hp
    | false =>
      obtain ⟨hanswer, hnext⟩ := h.step hcall hp
      have ih := told_trace rest hnext hle hrest
      rw [trace, told, List.filter_cons_of_pos (by simp [hp]),
        List.filter_cons_of_pos (by simp [hp]), trace, hanswer]
      exact congrArg _ ih

/-- What a new cache tells depends on the uses that are asked for something and on nothing else. -/
theorem told_trace_empty {calls : List CacheCall} (h : Chronological calls) :
    told (empty.trace calls) = empty.trace (calls.filter fun call => !call.isPurge) := by
  cases calls with
  | nil => rfl
  | cons call rest =>
    have hsame : SameFrom call.now empty empty := fun _ _ _ => rfl
    refine told_trace (call :: rest) hsame (fun x hx => ?_) h
    rcases List.mem_cons.1 hx with rfl | hx
    · exact le_refl _
    · exact (List.pairwise_cons.1 h).1 x hx

/-! ## Both together -/

/-- **A cache answers from its history.**  When a new cache is used by a clock that does not go
back, every use is answered as the observations taken before it call for, whatever was overwritten
or purged in the meantime.  So another sequence that differs in its purges only is told the same. -/
theorem answers_from_history {calls : List CacheCall} (chronological : Chronological calls) :
    (∀ before call rest, calls = before ++ call :: rest →
      Accounted (empty.trace before) (empty.after before) call) ∧
    ∀ swept, Chronological swept →
      (swept.filter fun call => !call.isPurge) = (calls.filter fun call => !call.isPurge) →
      told (empty.trace swept) = told (empty.trace calls) := by
  constructor
  · rintro before call rest rfl
    refine accounted_after fun x hx => ?_
    exact (List.pairwise_append.1 chronological).2.2 x hx call List.mem_cons_self
  · intro swept hswept hsame
    rw [told_trace_empty hswept, told_trace_empty chronological, hsame]

/-- An ID is taken, purged at the very instant at which it expires, and taken again. -/
def retaken : List CacheCall :=
  [.observe "_r" ⟨5, 0, by decide⟩ .epoch, .contains "_r" ⟨4, 0, by decide⟩,
    .purge ⟨5, 0, by decide⟩, .observe "_r" ⟨9, 0, by decide⟩ ⟨5, 0, by decide⟩,
    .contains "_r" ⟨8, 0, by decide⟩]

/-- The second observation of `retaken` is accounted for by the history with the purge in it, and
without the purge everything is told the same. -/
theorem answers_from_history_retaken :
    Chronological retaken ∧
      Accounted (empty.trace (retaken.take 3)) (empty.after (retaken.take 3))
        (.observe "_r" ⟨9, 0, by decide⟩ ⟨5, 0, by decide⟩) ∧
      told (empty.trace (retaken.filter fun call => !call.isPurge))
        = told (empty.trace retaken) := by
  have h : Chronological retaken := by decide
  obtain ⟨haccounted, hswept⟩ := answers_from_history h
  exact ⟨h, haccounted _ _ _ rfl, hswept _ (by decide) (by decide)⟩

end ReplayCache

end WebSso
