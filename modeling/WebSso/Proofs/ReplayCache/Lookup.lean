import WebSso.Proofs.Time.Order
import WebSso.ReplayCache

/-!
# What a cache knows of an ID

The entries of a cache are a list, but all that anybody asks it is the instant of an ID.  This file
says how each operation changes the answer, so that nothing further on looks at the list.

## What is here

* `ReplayCache.expiry?_eq_some_iff`: looking an ID up finds its one entry;
* `ReplayCache.expiry?_record` and `ReplayCache.expiry?_purge`, how the operations change the
  instant of an ID, and `ReplayCache.contains_iff`, what it says about whether the ID is remembered;
* `ReplayCache.observe_of_contains` and `ReplayCache.observe_of_not_contains`, the two ways in which
  an observation goes.
-/

set_option autoImplicit false
namespace WebSso

/-- An ID that stands once in a list is found with what stands beside it. -/
theorem map_find?_eq_some_iff {id : String} {expiry : Instant} {l : List (String × Instant)}
    (h : (l.map (·.1)).Nodup) :
    (l.find? fun e => e.1 == id).map (·.2) = some expiry ↔ (id, expiry) ∈ l := by
  induction l with
  | nil => simp
  | cons e rest ih =>
    rw [List.map_cons, List.nodup_cons] at h
    by_cases he : e.1 = id
    · rw [List.find?_cons_of_pos (by simpa using he), Option.map_some, Option.some.injEq,
        List.mem_cons]
      constructor
      · rintro rfl
        exact Or.inl (by rw [← he])
      · rintro (heq | hmem)
        · rw [← heq]
        · -- the ID would stand a second time behind its first entry
          exact absurd (List.mem_map_of_mem hmem) (he ▸ h.1)
    · rw [List.find?_cons_of_neg (by simpa using he), ih h.2, List.mem_cons]
      constructor
      · exact Or.inr
      · rintro (heq | hmem)
        · exact absurd (by rw [← heq]) he
        · exact hmem

theorem map_find?_setExpiry (id x : String) (expiry : Instant) (l : List (String × Instant)) :
    ((setExpiry id expiry l).find? fun e => e.1 == x).map (·.2)
      = if x = id then some expiry else (l.find? fun e => e.1 == x).map (·.2) := by
  induction l with
  | nil =>
    by_cases hx : x = id
    · simp [setExpiry, hx]
    · simp [setExpiry, hx, Ne.symm hx]
  | cons e rest ih =>
    rw [setExpiry]
    by_cases he : e.1 = id
    · rw [if_pos he]
      by_cases hx : x = id
      · simp [hx]
      · have hne : ¬ id = x := fun h => hx h.symm
        simp [he, hx, hne]
    · rw [if_neg he]
      by_cases hx : x = id
      · have hne : ¬ e.1 = x := fun h => he (h.trans hx)
        rw [List.find?_cons_of_neg (by simpa using hne), ih]
        simp [hx]
      · simp only [List.find?_cons, hx, if_false] at ih ⊢
        cases e.1 == x with
        | true => rfl
        | false => exact ih

namespace ReplayCache

/-! ## The instant of an ID -/

/-- Looking an ID up finds its entry. -/
theorem expiry?_eq_some_iff {c : ReplayCache} {id : String} {expiry : Instant} :
    c.expiry? id = some expiry ↔ (id, expiry) ∈ c.entries :=
  map_find?_eq_some_iff c.distinct

@[simp] theorem expiry?_empty (id : String) : empty.expiry? id = none := rfl

/-- Recording sets the instant of one ID and of no other. -/
theorem expiry?_record (c : ReplayCache) (id x : String) (expiry : Instant) :
    (c.record id expiry).expiry? x = if x = id then some expiry else c.expiry? x :=
  map_find?_setExpiry id x expiry c.entries

@[simp] theorem expiry?_record_self (c : ReplayCache) (id : String) (expiry : Instant) :
    (c.record id expiry).expiry? id = some expiry := by
  rw [expiry?_record, if_pos rfl]

theorem expiry?_record_of_ne {id x : String} (h : x ≠ id) (c : ReplayCache) (expiry : Instant) :
    (c.record id expiry).expiry? x = c.expiry? x := by
  rw [expiry?_record, if_neg h]

/-- Purging forgets the instants that have come, and no other. -/
theorem expiry?_purge_eq_some_iff {c : ReplayCache} {now expiry : Instant} {id : String} :
    (c.purge now).expiry? id = some expiry ↔ c.expiry? id = some expiry ∧ now < expiry := by
  rw [expiry?_eq_some_iff, expiry?_eq_some_iff, purge, List.mem_filter, decide_eq_true_eq]

/-! ## Whether an ID is remembered -/

theorem contains_iff {c : ReplayCache} {id : String} {now : Instant} :
    c.contains id now = true ↔ ∃ expiry, c.expiry? id = some expiry ∧ now < expiry := by
  rw [contains]
  cases c.expiry? id with
  | none => simp
  | some expiry => simp

theorem contains_eq_decide {c : ReplayCache} {id : String} {expiry : Instant}
    (h : c.expiry? id = some expiry) (now : Instant) :
    c.contains id now = decide (now < expiry) := by
  rw [contains, h]

/-- An ID whose instant has come is not remembered. -/
theorem contains_eq_false_iff {c : ReplayCache} {id : String} {now : Instant} :
    c.contains id now = false ↔ ∀ expiry, c.expiry? id = some expiry → expiry ≤ now := by
  rw [← Bool.not_eq_true, contains_iff]
  simp only [not_exists, not_and, Instant.not_lt]

/-- Recording settles whether one ID is remembered and leaves the others as they are. -/
theorem contains_record (c : ReplayCache) (id x : String) (expiry now : Instant) :
    (c.record id expiry).contains x now
      = if x = id then decide (now < expiry) else c.contains x now := by
  rw [contains, expiry?_record]
  by_cases hx : x = id
  · rw [if_pos hx, if_pos hx]
  · rw [if_neg hx, if_neg hx, contains]

/-- A purge makes no difference to an ID from then on. -/
theorem contains_purge {c : ReplayCache} {id : String} {purged now : Instant} (h : purged ≤ now) :
    (c.purge purged).contains id now = c.contains id now := by
  rw [Bool.eq_iff_iff, contains_iff, contains_iff]
  constructor
  · rintro ⟨expiry, he, hlt⟩
    exact ⟨expiry, (expiry?_purge_eq_some_iff.1 he).1, hlt⟩
  · rintro ⟨expiry, he, hlt⟩
    exact ⟨expiry, expiry?_purge_eq_some_iff.2 ⟨he, lt_of_le_of_lt h hlt⟩, hlt⟩

/-! ## Observations -/

/-- An ID that is remembered is not taken. -/
theorem observe_of_contains {c : ReplayCache} {id : String} {now : Instant}
    (h : c.contains id now = true) (expiry : Instant) : c.observe id expiry now = (false, c) := by
  rw [observe, if_pos h]

/-- An ID that is not remembered is taken. -/
theorem observe_of_not_contains {c : ReplayCache} {id : String} {now : Instant}
    (h : c.contains id now = false) (expiry : Instant) :
    c.observe id expiry now = (true, c.record id expiry) := by
  rw [observe, h]
  rfl

/-! ## Sizes -/

/-- What a purge drops and what it leaves make up all there was. -/
theorem purgeCount_add_size (c : ReplayCache) (now : Instant) :
    c.purgeCount now + (c.purge now).size = c.size :=
  Nat.sub_add_cancel (List.length_filter_le _ _)

end ReplayCache

end WebSso
