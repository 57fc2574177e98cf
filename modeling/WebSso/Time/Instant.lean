import WebSso.Text.Described
import WebSso.Time.Calendar

/-!
# Instants and durations

An instant is a point in time shown at some offset from UTC.  Only the years -9999 to 9999 can be
shown, so an operation on instants has no result when it would leave them.

## What is here

* `Duration`, a signed span of nanoseconds, and `Duration.ofConfigured`, which caps a configured
  number of seconds at the longest span there is;
* `Instant`, whose date at its own offset is within the range of years;
* `Instant.add?` and `Instant.sub?`, which are undefined out of that range;
* `Instant.wholeSeconds`, which drops what is below a second, and `Instant.toUtc?`, which shows
  the same instant at UTC if it can be shown there;
* the order of instants, which looks at the point in time and not at the offset.
-/

set_option autoImplicit false
namespace WebSso

/-- The nanoseconds of a second. -/
def nanosPerSecond : Int := 1000000000

/-- The seconds of a day. -/
def secondsPerDay : Int := 86400

/-! ## Durations -/

/-- A span of time, negative when it leads into the past. -/
structure Duration where
  /-- Its length. -/
  nanoseconds : Int
  deriving DecidableEq

namespace Duration

/-- A span of whole seconds. -/
def seconds (n : Int) : Duration := ⟨n * nanosPerSecond⟩

/-- The seconds of the longest duration. -/
def maxSeconds : Nat := 9223372036854775807

/-- The span of a configured number of seconds; beyond the longest duration it is the longest. -/
def ofConfigured (n : Nat) : Duration := seconds (min n maxSeconds : Nat)

/-- The whole seconds of a span, counted toward zero. -/
def wholeSeconds (d : Duration) : Int := d.nanoseconds.tdiv nanosPerSecond

/-- What the whole seconds leave over, of the same sign. -/
def subsecNanos (d : Duration) : Int := d.nanoseconds.tmod nanosPerSecond

instance : Neg Duration := ⟨fun d => ⟨-d.nanoseconds⟩⟩

/-- How a span is shown. -/
def describe (d : Duration) : String :=
  describeRecord "SignedDuration"
    [("seconds", toString d.wholeSeconds), ("nanoseconds", toString d.subsecNanos)]

end Duration

/-! ## Instants -/

/-- The first second that can be shown, the start of the year -9999. -/
def firstShown : Int := -377705116800

/-- The end of the last second that can be shown, the start of the year 10000. -/
def endShown : Int := 253402300800

/-- The nanoseconds of the clock, at the offset it is shown at, that belong to a year from -9999
to 9999. -/
def Shown (localNanoseconds : Int) : Prop :=
  firstShown * nanosPerSecond ≤ localNanoseconds ∧ localNanoseconds < endShown * nanosPerSecond

instance (n : Int) : Decidable (Shown n) := inferInstanceAs (Decidable (_ ∧ _))

/-- A point in time and the offset it is shown at. -/
structure Instant where
  /-- Nanoseconds since 1970-01-01T00:00:00Z. -/
  nanoseconds : Int
  /-- Seconds that the clock shown is ahead of UTC. -/
  offset : Int
  /-- The clock shown is within the years -9999 to 9999. -/
  shown : Shown (nanoseconds + offset * nanosPerSecond)
  deriving DecidableEq

namespace Instant

/-- The instant of some nanoseconds since 1970 at an offset, if it can be shown there. -/
def ofNanoseconds? (nanoseconds offset : Int) : Option Instant :=
  if h : Shown (nanoseconds + offset * nanosPerSecond) then some ⟨nanoseconds, offset, h⟩ else none

/-- The instant of a second and some nanoseconds, known at UTC first and then shown at an
offset. -/
def ofUnix? (seconds : Int) (nanos : Nat) (offset : Int) : Option Instant := do
  let _ ← ofNanoseconds? (seconds * nanosPerSecond + nanos) 0
  ofNanoseconds? (seconds * nanosPerSecond + nanos) offset

/-- The second of an instant, counted from 1970 and rounded into the past. -/
def unixSeconds (t : Instant) : Int := t.nanoseconds / nanosPerSecond

/-- The nanoseconds of an instant within its second. -/
def subsecond (t : Instant) : Int := t.nanoseconds % nanosPerSecond

/-- The start of 1970 at UTC. -/
def epoch : Instant := ⟨0, 0, by decide⟩

/-! ## Arithmetic -/

/-- The instant a span later, shown at the same offset. -/
def add? (t : Instant) (d : Duration) : Option Instant :=
  ofNanoseconds? (t.nanoseconds + d.nanoseconds) t.offset

/-- The instant a span earlier, shown at the same offset. -/
def sub? (t : Instant) (d : Duration) : Option Instant :=
  ofNanoseconds? (t.nanoseconds - d.nanoseconds) t.offset

/-- The same instant shown at UTC. -/
def toUtc? (t : Instant) : Option Instant := ofNanoseconds? t.nanoseconds 0

/-- The start of the second of an instant.  An offset is a whole number of seconds, and so are the
ends of the range, so that the start of a second that can be shown can be shown too. -/
def wholeSeconds (t : Instant) : Instant where
  nanoseconds := t.nanoseconds - t.subsecond
  offset := t.offset
  shown := by
    have h := t.shown
    simp only [Shown, subsecond, firstShown, endShown, nanosPerSecond] at h ⊢
    omega

/-! ## Order -/

instance : LE Instant := ⟨fun a b => a.nanoseconds ≤ b.nanoseconds⟩

instance : LT Instant := ⟨fun a b => a.nanoseconds < b.nanoseconds⟩

instance (a b : Instant) : Decidable (a ≤ b) :=
  inferInstanceAs (Decidable (a.nanoseconds ≤ b.nanoseconds))

instance (a b : Instant) : Decidable (a < b) :=
  inferInstanceAs (Decidable (a.nanoseconds < b.nanoseconds))

/-- The later of two instants; of two at the same point in time, the second. -/
def latest (a b : Instant) : Instant := if a ≤ b then b else a

theorem le_iff (a b : Instant) : a ≤ b ↔ a.nanoseconds ≤ b.nanoseconds := Iff.rfl

theorem lt_iff (a b : Instant) : a < b ↔ a.nanoseconds < b.nanoseconds := Iff.rfl

end Instant

end WebSso
