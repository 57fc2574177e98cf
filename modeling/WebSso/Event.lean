/-!
# Events

What the library reports to the operator while it works: a level, a message that is always the same
for one kind of event, and fields that say what it was about.

## What is here

* `Event` with its `Level` and its fields, and `Event.debug`, `Event.info`, `Event.warn`.
-/

set_option autoImplicit false
namespace WebSso

/-- How much an event matters. -/
inductive Level where
  | debug
  | info
  | warn
  deriving DecidableEq

/-- The value of a field. -/
inductive EventValue where
  | text (value : String)
  | number (value : Nat)
  deriving DecidableEq

/-- A report. -/
structure Event where
  /-- How much it matters. -/
  level : Level
  /-- Its kind. -/
  message : String
  /-- What it is about. -/
  fields : List (String × EventValue)
  deriving DecidableEq

namespace Event

/-- A report that helps to follow what happens. -/
def debug (message : String) (fields : List (String × EventValue)) : Event :=
  ⟨.debug, message, fields⟩

/-- A report of something that was achieved. -/
def info (message : String) (fields : List (String × EventValue)) : Event :=
  ⟨.info, message, fields⟩

/-- A report of something that should not happen. -/
def warn (message : String) (fields : List (String × EventValue)) : Event :=
  ⟨.warn, message, fields⟩

end Event

end WebSso
