import WebSso.Crypto.TrustStore
import WebSso.Crypto.DenyList
import WebSso.ReplayCache

/-!
# What a receiver of responses insists on

## What is here

* `Validator`, the demands of a service provider on the responses it gets, with `Validator.ofTrust`
  for the least of them;
* `ValidatorEdit`, one thing that can be demanded; `Validator.describe`, how all are shown.
-/

set_option autoImplicit false
namespace WebSso

/-- The demands of a service provider. -/
structure Validator where
  /-- The algorithms it does not accept. -/
  denied : DenyList
  /-- The certificates it trusts. -/
  trust : TrustStore
  /-- Its name, which has to be an audience. -/
  audience : String
  /-- How far clocks may be apart. -/
  clockSkew : Duration
  /-- Its endpoint, which has to be the recipient, if it insists. -/
  recipient : Option String
  /-- Whether it keeps a cache of used assertion IDs and refuses them. -/
  refusesReplays : Bool
  deriving DecidableEq

/-- One thing that can be demanded. -/
inductive ValidatorEdit where
  | denied (value : DenyList)
  | clockSkew (value : Duration)
  | recipient (value : String)
  | refuseReplays
  deriving DecidableEq

namespace Validator

/-- The least that a service provider demands: a signature it trusts and its own name. -/
def ofTrust (trust : TrustStore) (audience : String) : Validator where
  denied := .default
  trust := trust
  audience := audience
  clockSkew := .seconds 60
  recipient := none
  refusesReplays := false

/-- The demands after one more was made. -/
def edit (v : Validator) : ValidatorEdit → Validator
  | .denied value => { v with denied := value }
  | .clockSkew value => { v with clockSkew := value }
  | .recipient value => { v with recipient := some value }
  | .refuseReplays => { v with refusesReplays := true }

/-- How demands are shown before the first response came. -/
def describe (v : Validator) : String :=
  let cache := if v.refusesReplays then some ReplayCache.describeEmpty else none
  describeRecord "ResponseValidator"
    [("engine", v.denied.describe), ("trust", v.trust.describe), ("audience", quoted v.audience),
      ("clock_skew", v.clockSkew.describe), ("recipient", describeOption (v.recipient.map quoted)),
      ("replay", describeOption cache)]

end Validator

end WebSso
