import WebSso.Fault
import WebSso.Time.Instant

/-!
# Steps that may stop

Most steps either succeed or refuse with a fault.  A step that computes with instants can also leave
the years that an instant can be shown in; then it is given up, and no fault is reported for it.

## What is here

* `Stop`, the two ways in which a step ends early, and `Attempt`, a step that may;
* `Stop.inRange`, an instant that has to exist.
-/

set_option autoImplicit false
namespace WebSso

/-- Why a step ended early. -/
inductive Stop where
  /-- An instant left the years that can be shown. -/
  | outOfRange
  /-- The step was refused. -/
  | refused (cause : Fault)
  deriving DecidableEq

/-- The result of a step that may stop. -/
abbrev Attempt := Except Stop

namespace Stop

/-- The instant of a computation that has to stay in range. -/
def inRange : Option Instant → Attempt Instant
  | some t => .ok t
  | none => .error outOfRange

/-- A refusal. -/
def refuse {α : Type} (cause : Fault) : Attempt α := .error (refused cause)

/-- A step that cannot leave the range. -/
def ofFallible {α : Type} : Except Fault α → Attempt α
  | .ok a => .ok a
  | .error cause => .error (refused cause)

end Stop

end WebSso
