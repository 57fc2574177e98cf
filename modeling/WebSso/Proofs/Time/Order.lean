import Mathlib.Order.Basic
import WebSso.Stop

/-!
# The order of instants

Instants are compared as points in time.  Two of them can be the same point and differ in the offset
they are shown at, so the order is total but not antisymmetric.

## What is here

* the preorder of instants, with `Instant.not_lt` for its totality;
* `Instant.nanoseconds_latest`, the point in time of the later of two;
* `Instant.nanoseconds_add?`, the point in time that an addition leads to when it stays in range,
  and `Stop.inRange_cases`, whether it does;
* `Stop.exists_of_bind_eq_ok`, by which a computation that succeeds is taken apart.
-/

set_option autoImplicit false
namespace WebSso
namespace Instant

instance : Preorder Instant where
  le_refl a := Int.le_refl a.nanoseconds
  le_trans _ _ _ := Int.le_trans
  lt_iff_le_not_ge a b := by
    rw [le_iff, le_iff, lt_iff]
    omega

protected theorem not_lt {a b : Instant} : ¬ a < b ↔ b ≤ a := Int.not_lt

/-- The later of two instants is at the later of their points in time. -/
theorem nanoseconds_latest (a b : Instant) :
    (latest a b).nanoseconds = max a.nanoseconds b.nanoseconds := by
  rw [latest]
  split
  · rename_i h
    rw [le_iff] at h
    omega
  · rename_i h
    rw [le_iff] at h
    omega

/-! ## Arithmetic that stays in range -/

theorem ofNanoseconds?_eq_some_iff {n offset : Int} {t : Instant} :
    ofNanoseconds? n offset = some t ↔ t.nanoseconds = n ∧ t.offset = offset := by
  rw [ofNanoseconds?]
  constructor
  · intro h
    split at h
    · cases h
      exact ⟨rfl, rfl⟩
    · cases h
  · rintro ⟨rfl, rfl⟩
    rw [dif_pos t.shown]

theorem nanoseconds_add? {t u : Instant} {d : Duration} (h : t.add? d = some u) :
    u.nanoseconds = t.nanoseconds + d.nanoseconds :=
  (ofNanoseconds?_eq_some_iff.1 h).1

end Instant

/-- An instant that has to exist does, or the range is left. -/
theorem Stop.inRange_cases (t : Option Instant) :
    Stop.inRange t = .error .outOfRange ∧ t = none ∨ ∃ u, Stop.inRange t = .ok u ∧ t = some u := by
  cases t with
  | none => exact Or.inl ⟨rfl, rfl⟩
  | some u => exact Or.inr ⟨u, rfl, rfl⟩

theorem Stop.inRange_eq_ok_iff {t : Option Instant} {u : Instant} :
    Stop.inRange t = .ok u ↔ t = some u := by
  cases t with
  | none => exact ⟨nofun, nofun⟩
  | some v => exact ⟨fun h => congrArg some (Except.ok.inj h), fun h => by cases h; rfl⟩

/-- Two attempts that succeed together succeed one after the other. -/
theorem Stop.exists_of_bind_eq_ok {α β : Type} {x : Attempt α} {f : α → Attempt β} {b : β}
    (h : (x >>= f) = .ok b) : ∃ a, x = .ok a ∧ f a = .ok b := by
  cases x with
  | error stop => cases h
  | ok a => exact ⟨a, rfl, h⟩

end WebSso
