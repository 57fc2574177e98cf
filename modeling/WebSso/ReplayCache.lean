import WebSso.Event
import WebSso.Text.Described
import WebSso.Time.Instant

/-!
# Used message IDs

A message ID counts once.  The cache remembers an ID until an instant that is given with it, and
forgets it from then on.

## What is here

* `ReplayCache`, the IDs with their instants, each ID once;
* `ReplayCache.contains`, whether an ID is still remembered;
* `ReplayCache.observe`, which takes an ID that is not, `ReplayCache.purge`, which drops what is no
  longer remembered;
* the reports that go with them: `replayedEvent?` and `sweptEvent?`.
-/

set_option autoImplicit false
namespace WebSso

/-- The IDs that were used, each with the instant up to which it is remembered. -/
structure ReplayCache where
  /-- IDs and instants. -/
  entries : List (String × Instant)
  /-- Each ID stands there once. -/
  distinct : (entries.map (·.1)).Nodup
  deriving DecidableEq

/-- Entries with an instant for an ID: in its place if it is there, at the end otherwise. -/
def setExpiry (id : String) (expiry : Instant) :
    List (String × Instant) → List (String × Instant)
  | [] => [(id, expiry)]
  | e :: rest => if e.1 = id then (id, expiry) :: rest else e :: setExpiry id expiry rest

theorem mem_map_setExpiry {id x : String} {expiry : Instant} {l : List (String × Instant)} :
    x ∈ (setExpiry id expiry l).map (·.1) ↔ x = id ∨ x ∈ l.map (·.1) := by
  induction l with
  | nil => simp [setExpiry]
  | cons e rest ih =>
    rw [setExpiry]
    split
    · rename_i he
      simp [← he]
    · simp only [List.map_cons, List.mem_cons, ih]
      exact or_left_comm

/-- Setting an instant does not repeat an ID. -/
theorem nodup_map_setExpiry (id : String) (expiry : Instant) {l : List (String × Instant)}
    (h : (l.map (·.1)).Nodup) : ((setExpiry id expiry l).map (·.1)).Nodup := by
  induction l with
  | nil => simp [setExpiry]
  | cons e rest ih =>
    rw [List.map_cons, List.nodup_cons] at h
    rw [setExpiry]
    split
    · rename_i he
      rw [List.map_cons, List.nodup_cons, ← he]
      exact h
    · rename_i he
      rw [List.map_cons, List.nodup_cons, mem_map_setExpiry]
      exact ⟨fun hx => hx.elim he h.1, ih h.2⟩

namespace ReplayCache

/-- No ID was used. -/
def empty : ReplayCache := ⟨[], List.nodup_nil⟩

/-- The number of entries, those that are no longer remembered included. -/
def size (c : ReplayCache) : Nat := c.entries.length

/-- Whether there is no entry. -/
def isEmpty (c : ReplayCache) : Bool := c.entries.isEmpty

/-- The instant of an ID. -/
def expiry? (c : ReplayCache) (id : String) : Option Instant :=
  (c.entries.find? fun e => e.1 == id).map (·.2)

/-- Whether an ID is remembered: its instant is still to come. -/
def contains (c : ReplayCache) (id : String) (now : Instant) : Bool :=
  match c.expiry? id with
  | some expiry => now < expiry
  | none => false

/-- The cache with an ID remembered until an instant, whatever was there. -/
def record (c : ReplayCache) (id : String) (expiry : Instant) : ReplayCache :=
  ⟨setExpiry id expiry c.entries, nodup_map_setExpiry id expiry c.distinct⟩

/-- Takes an ID that is not remembered, and remembers it from now on; whether it did.  An instant
that has come already is recorded like any other. -/
def observe (c : ReplayCache) (id : String) (expiry now : Instant) : Bool × ReplayCache :=
  if c.contains id now then (false, c) else (true, c.record id expiry)

/-- The cache without the entries that are no longer remembered. -/
def purge (c : ReplayCache) (now : Instant) : ReplayCache :=
  ⟨c.entries.filter fun e => now < e.2, c.distinct.sublist (List.filter_sublist.map _)⟩

/-- How many entries `purge` drops. -/
def purgeCount (c : ReplayCache) (now : Instant) : Nat := c.size - (c.purge now).size

/-! ## Reports -/

/-- The report that an ID was not taken. -/
def replayedEvent? (taken : Bool) (id : String) : Option Event :=
  if taken then none else some (.warn "replayed message ID" [("id", .text id)])

/-- The report of a sweep that dropped something. -/
def sweptEvent? (c : ReplayCache) (now : Instant) : Option Event :=
  if c.purgeCount now = 0 then none
  else
    some (.debug "swept replay cache"
      [("purged", .number (c.purgeCount now)), ("remaining", .number (c.purge now).size)])

/-- How a cache without entries is shown. -/
def describeEmpty : String :=
  describeRecord "ReplayCache" [("entries", describeRecord "Mutex" [("data", describeSet [])])]

end ReplayCache

end WebSso
