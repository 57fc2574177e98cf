import WebSso.Event

/-!
# The states of a flow

Answering a request moves through states: the request is received, its user is resolved, the
assertion is issued, the response is signed, and the flow ends in success; or it is rejected.

## What is here

* `FlowState`, with the name that each is reported by;
* `FlowState.transition`, the report of a move.
-/

set_option autoImplicit false
namespace WebSso

/-- Where a flow stands. -/
inductive FlowState where
  | idle
  | requestReceived
  | identityResolved
  | assertionIssued
  | responseSigned
  | success
  | rejected
  deriving DecidableEq

namespace FlowState

/-- Every state, in the order of a flow. -/
def all : List FlowState :=
  [idle, requestReceived, identityResolved, assertionIssued, responseSigned, success, rejected]

/-- The name a state is reported by. -/
def name : FlowState → String
  | idle => "idle"
  | requestReceived => "request_received"
  | identityResolved => "identity_resolved"
  | assertionIssued => "assertion_issued"
  | responseSigned => "response_signed"
  | success => "success"
  | rejected => "rejected"

/-- The report that the flow of a request moved. -/
def transition (source target : FlowState) (request : String) : Event :=
  .debug "flow transition"
    [("from", .text source.name), ("to", .text target.name), ("request", .text request)]

end FlowState

end WebSso
