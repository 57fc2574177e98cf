import WebSso.MessageId
import WebSso.ReplayCache
import WebSso.Stop

/-!
# Steps of a flow

A step of a flow may stop, and whether it does or not it may have taken IDs, drawn random bits and
reported events; these stay.

## What is here

* `Session`, what a flow works on, and `Step`, what it is made of;
* `Step.report`, `Step.attempt`, `Step.require`, `Step.drawId`, the smallest steps;
* `Step.take`, which takes an ID and tells whether it could, and `Step.consume`, which stops if the
  ID was used;
* `Step.catching`, a step whose refusal is not the end.
-/

set_option autoImplicit false
namespace WebSso

/-- What a flow works on. -/
structure Session where
  /-- The IDs that were used. -/
  cache : ReplayCache
  /-- The events reported so far, first to last. -/
  log : List Event
  /-- The random bits there are. -/
  draws : Nat → Draw
  /-- How many of them were used. -/
  drawn : Nat

/-- A session of which nothing is used yet. -/
def Session.start (draws : Nat → Draw) : Session := ⟨.empty, [], draws, 0⟩

/-- A step of a flow. -/
abbrev Step := ExceptT Stop (StateM Session)

namespace Step

/-- Reports an event. -/
def report (event : Event) : Step Unit := modify fun s => { s with log := s.log ++ [event] }

/-- Reports an event if there is one. -/
def report? : Option Event → Step Unit
  | none => pure ()
  | some event => report event

/-- Goes on with the result of an attempt. -/
def attempt {α : Type} : Attempt α → Step α
  | .ok a => pure a
  | .error stop => throw stop

/-- Goes on with a result that may be refused. -/
def require {α : Type} (result : Except Fault α) : Step α := attempt (Stop.ofFallible result)

/-- A new ID. -/
def drawId : Step String := do
  let s ← get
  set { s with drawn := s.drawn + 1 }
  return messageId (s.draws s.drawn)

/-- Takes an ID until an instant, and tells whether it could; if not, this is reported. -/
def take (id : String) (expiry now : Instant) : Step Bool := do
  let s ← get
  let (taken, cache) := s.cache.observe id expiry now
  set { s with cache }
  report? (ReplayCache.replayedEvent? taken id)
  return taken

/-- Takes an ID until an instant, which must not have been used. -/
def consume (id : String) (expiry now : Instant) : Step Unit := do
  if ← take id expiry now then return ()
  else attempt (Stop.refuse (.replayDetected id))

/-- Drops the IDs that are no longer remembered, and tells how many. -/
def purge (now : Instant) : Step Nat := do
  let s ← get
  set { s with cache := s.cache.purge now }
  return s.cache.purgeCount now

/-- Drops the IDs that are no longer remembered, and reports it if there were any. -/
def sweep (now : Instant) : Step Unit := do
  let s ← get
  set { s with cache := s.cache.purge now }
  report? (s.cache.sweptEvent? now)

/-- The result of a step, or what it was refused for. -/
def catching {α : Type} (step : Step α) : Step (Except Fault α) := fun s =>
  match step.run s with
  | (.ok a, s) => (.ok (.ok a), s)
  | (.error (.refused cause), s) => (.ok (.error cause), s)
  | (.error .outOfRange, s) => (.error .outOfRange, s)

end Step

end WebSso
