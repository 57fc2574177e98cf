import WebSso.Proofs.Time.Order

/-!
# Which instants exist

Adding a span to an instant leaves the years that can be shown or does not, by the clock that the
instant is shown at; showing it at UTC is the same question for the clock of UTC.

## What is here

* `Instant.isSome_add?_iff` and its like: when an operation has a result;
* `Instant.Contemporary`, the instants of the years 2000 to 2100, `spareSeconds`, how far they are
  from the end of the years that can be shown, and `Instant.Contemporary.shown_moved`, by which they
  can be moved that far;
* `Duration.nanoseconds_ofConfigured`, the length of a configured span that is not longer than that.
-/

set_option autoImplicit false
namespace WebSso

/-! ## Operations that have a result -/

namespace Instant

theorem isSome_ofNanoseconds?_iff {n offset : Int} :
    (ofNanoseconds? n offset).isSome ↔ Shown (n + offset * nanosPerSecond) := by
  rw [ofNanoseconds?]
  split
  · rename_i h
    simp [h]
  · rename_i h
    simp [h]

theorem isSome_add?_iff {t : Instant} {d : Duration} :
    (t.add? d).isSome ↔ Shown (t.nanoseconds + d.nanoseconds + t.offset * nanosPerSecond) :=
  isSome_ofNanoseconds?_iff

theorem isSome_sub?_iff {t : Instant} {d : Duration} :
    (t.sub? d).isSome ↔ Shown (t.nanoseconds - d.nanoseconds + t.offset * nanosPerSecond) :=
  isSome_ofNanoseconds?_iff

theorem isSome_toUtc?_iff {t : Instant} : t.toUtc?.isSome ↔ Shown t.nanoseconds := by
  rw [toUtc?, isSome_ofNanoseconds?_iff, Int.zero_mul, Int.add_zero]

/-- What an addition results in is shown at the same offset. -/
theorem offset_add? {t u : Instant} {d : Duration} (h : t.add? d = some u) :
    u.offset = t.offset :=
  (ofNanoseconds?_eq_some_iff.1 h).2

theorem nanoseconds_sub? {t u : Instant} {d : Duration} (h : t.sub? d = some u) :
    u.nanoseconds = t.nanoseconds - d.nanoseconds :=
  (ofNanoseconds?_eq_some_iff.1 h).1

end Instant

/-! ## Instants of these years -/

/-- The start of the year 2000. -/
def centuryStart : Int := 946684800

/-- The end of the year 2100. -/
def centuryEnd : Int := 4133980800

/-- The seconds of the widest offset from UTC, 25:59:59. -/
def widestOffset : Nat := 93599

/-- The seconds from the end of the year 2100 to the end of the years that can be shown. -/
def spareSeconds : Nat := 249268320000

/-- An instant of the years 2000 to 2100, by the clock that it is shown at. -/
structure Instant.Contemporary (t : Instant) : Prop where
  /-- The clock is past the start of 2000. -/
  started : centuryStart * nanosPerSecond ≤ t.nanoseconds + t.offset * nanosPerSecond
  /-- The clock is before the end of 2100. -/
  notEnded : t.nanoseconds + t.offset * nanosPerSecond < centuryEnd * nanosPerSecond
  /-- The offset is one that a clock can have. -/
  offset : -widestOffset ≤ t.offset ∧ t.offset ≤ widestOffset

namespace Duration

/-- A configured span is not negative. -/
theorem nanoseconds_ofConfigured_nonneg (n : Nat) : 0 ≤ (ofConfigured n).nanoseconds := by
  simp only [ofConfigured, seconds, nanosPerSecond]
  omega

/-- The length of a configured span, as long as that is not capped. -/
theorem nanoseconds_ofConfigured {n : Nat} (h : n ≤ spareSeconds) :
    (ofConfigured n).nanoseconds = n * nanosPerSecond := by
  have hmin : min n maxSeconds = n := by
    simp only [spareSeconds, maxSeconds] at h ⊢
    omega
  rw [ofConfigured, seconds, hmin]

/-- A configured span that is too long stays too long when it is capped: if its length is below the
next second, so is the number of seconds that is configured. -/
theorem le_of_nanoseconds_ofConfigured_lt {n k : Nat} (hk : k ≤ spareSeconds)
    (h : (ofConfigured n).nanoseconds < (k + 1) * nanosPerSecond) : n ≤ k := by
  simp only [ofConfigured, seconds, nanosPerSecond, maxSeconds, spareSeconds] at hk h
  omega

/-- How long a configured span is at most can be seen in the configuration. -/
theorem nanoseconds_ofConfigured_le_iff {n k : Nat} (hk : k ≤ spareSeconds) :
    (ofConfigured n).nanoseconds ≤ k * nanosPerSecond ↔ n ≤ k := by
  constructor
  · intro h
    refine le_of_nanoseconds_ofConfigured_lt hk ?_
    simp only [nanosPerSecond] at h ⊢
    omega
  · intro h
    rw [nanoseconds_ofConfigured (Nat.le_trans h hk)]
    simp only [nanosPerSecond]
    omega

end Duration

/-! ## Arithmetic with instants of these years -/

namespace Instant.Contemporary

variable {t : Instant} {d : Duration}

/-- The bounds are whole seconds, so that dropping what is below a second does not cross them. -/
theorem wholeSeconds (h : t.Contemporary) : t.wholeSeconds.Contemporary := by
  have hstart := h.started
  have hend := h.notEnded
  refine ⟨?_, ?_, h.offset⟩
  · simp only [Instant.wholeSeconds, subsecond, centuryStart, nanosPerSecond] at hstart ⊢
    omega
  · simp only [Instant.wholeSeconds, subsecond, centuryEnd, nanosPerSecond] at hend ⊢
    omega

/-- There is room on both sides of these years, by the clock that the instant is shown at. -/
theorem shown_moved (h : t.Contemporary) {n : Int}
    (hn : -(spareSeconds * nanosPerSecond) ≤ n ∧ n ≤ spareSeconds * nanosPerSecond) :
    Shown (t.nanoseconds + n + t.offset * nanosPerSecond) := by
  have hstart := h.started
  have hend := h.notEnded
  simp only [Shown, centuryStart, centuryEnd, spareSeconds, firstShown, endShown, nanosPerSecond]
    at hstart hend hn ⊢
  omega

/-- At UTC an offset has to fit in as well. -/
theorem shown_moved_utc (h : t.Contemporary) {n : Int}
    (hn : -(spareSeconds * nanosPerSecond) ≤ n ∧
      n + widestOffset * nanosPerSecond ≤ spareSeconds * nanosPerSecond) :
    Shown (t.nanoseconds + n) := by
  have hstart := h.started
  have hend := h.notEnded
  have hoffset := h.offset
  simp only [Shown, centuryStart, centuryEnd, widestOffset, spareSeconds, firstShown, endShown,
    nanosPerSecond] at hstart hend hoffset hn ⊢
  omega

theorem isSome_add? (h : t.Contemporary) (hpos : 0 ≤ d.nanoseconds)
    (hd : d.nanoseconds ≤ spareSeconds * nanosPerSecond) : (t.add? d).isSome :=
  isSome_add?_iff.mpr (h.shown_moved ⟨Int.le_trans (by decide) hpos, hd⟩)

theorem isSome_sub? (h : t.Contemporary) (hpos : 0 ≤ d.nanoseconds)
    (hd : d.nanoseconds ≤ spareSeconds * nanosPerSecond) : (t.sub? d).isSome := by
  rw [isSome_sub?_iff, Int.sub_eq_add_neg]
  have hneg : -d.nanoseconds ≤ 0 := Int.neg_nonpos_of_nonneg hpos
  exact h.shown_moved ⟨Int.neg_le_neg hd, Int.le_trans hneg (by decide)⟩

theorem isSome_toUtc? (h : t.Contemporary) : t.toUtc?.isSome := by
  rw [isSome_toUtc?_iff, ← Int.add_zero t.nanoseconds]
  exact h.shown_moved_utc ⟨by decide, by decide⟩

/-- What comes later by a span that leaves room for the offset exists at UTC too. -/
theorem isSome_toUtc?_of_add? {u : Instant} (h : t.Contemporary) (hpos : 0 ≤ d.nanoseconds)
    (hd : d.nanoseconds + widestOffset * nanosPerSecond ≤ spareSeconds * nanosPerSecond)
    (hu : t.add? d = some u) : u.toUtc?.isSome := by
  rw [isSome_toUtc?_iff, nanoseconds_add? hu]
  exact h.shown_moved_utc ⟨Int.le_trans (by decide) hpos, hd⟩

theorem isSome_toUtc?_of_sub? {u : Instant} (h : t.Contemporary) (hpos : 0 ≤ d.nanoseconds)
    (hd : d.nanoseconds ≤ spareSeconds * nanosPerSecond) (hu : t.sub? d = some u) :
    u.toUtc?.isSome := by
  rw [isSome_toUtc?_iff, nanoseconds_sub? hu, Int.sub_eq_add_neg]
  have hneg : -d.nanoseconds ≤ 0 := Int.neg_nonpos_of_nonneg hpos
  refine h.shown_moved_utc ⟨Int.neg_le_neg hd, ?_⟩
  exact Int.le_trans (Int.add_le_add_right hneg _) (by decide)

end Instant.Contemporary

end WebSso
