import WebSso.Fault
import WebSso.Flow.State
import WebSso.Response

/-!
# How a flow begins and ends

## What is here

* `ReceivedRequest`, a request that was accepted;
* `FlowOutcome`, success with a response or a rejection, with `state`, `response?` and `result`.
-/

set_option autoImplicit false
namespace WebSso

/-- A request that was accepted. -/
structure ReceivedRequest where
  /-- Its ID. -/
  id : String
  /-- The service provider that asks. -/
  issuer : String
  /-- The endpoint that takes the response. -/
  acsUrl : String
  /-- When it was issued. -/
  issueInstant : Instant
  /-- The format of NameID that is asked for. -/
  nameIdFormat : Option String
  deriving DecidableEq

/-- How a flow ended. -/
inductive FlowOutcome where
  /-- With a response that carries an assertion. -/
  | success (response : FinishedResponse)
  /-- With a refusal, and a response that tells of it unless it could not be signed. -/
  | rejected (cause : Fault) (response : Option FinishedResponse)
  deriving DecidableEq

namespace FlowOutcome

/-- The state in which the flow ended. -/
def state : FlowOutcome → FlowState
  | success _ => .success
  | rejected _ _ => .rejected

/-- The response to be sent, if there is one. -/
def response? : FlowOutcome → Option FinishedResponse
  | success response => some response
  | rejected _ response => response

/-- The response of a success, or why there is none. -/
def result : FlowOutcome → Except Fault FinishedResponse
  | success response => .ok response
  | rejected cause _ => .error cause

end FlowOutcome

end WebSso
