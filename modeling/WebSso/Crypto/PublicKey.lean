import WebSso.Asn1.AlgorithmName
import WebSso.Asn1.Streamed
import WebSso.Crypto.CurveKey
import WebSso.Crypto.KeyFamily
import WebSso.Crypto.Padding
import WebSso.Crypto.PowerKey
import WebSso.Crypto.RsaKey

/-!
# Public keys

## What is here

* `PublicKey`, a key of one of the families, read out of a certificate by `PublicKey.ofValue?`.
-/

set_option autoImplicit false
namespace WebSso

/-- A public key. -/
inductive PublicKey where
  /-- A key for RSA in all its uses. -/
  | rsa (key : RsaKey)
  /-- A key for RSA signatures with random padding. -/
  | rsaPss (key : RsaKey)
  /-- A power that signs. -/
  | dsa (key : PowerKey)
  /-- A power to agree on a secret. -/
  | dh (key : PowerKey)
  /-- A power to agree on a secret, with more said about the group. -/
  | dhExtended (key : PowerKey)
  /-- A point of a curve. -/
  | curve (key : CurveKey)
  /-- A string of bytes. -/
  | octets (kind : OctetKind) (bytes : Bytes)
  /-- The public half of a private key that is not in the form that its group prescribes; no
  certificate holds it. -/
  | irregular
  deriving DecidableEq

namespace PublicKey

open Asn1 (Value AlgorithmName)

/-- The key of the name of an algorithm and some bytes. -/
def ofNamed? (algorithm : AlgorithmName) (bytes : Bytes) : Option PublicKey := do
  match ← KeyFamily.ofPath? algorithm.path with
  | .rsa => return .rsa (← RsaKey.ofPublic? bytes)
  | .rsaPss =>
    if Padding.isAllowed algorithm then return .rsaPss (← RsaKey.ofPublic? bytes) else none
  | .dsa =>
    let group ← PowerGroup.ofSignature? (← algorithm.parameter)
    return .dsa (← PowerKey.ofPublic? group bytes)
  | .dh =>
    let group ← PowerGroup.ofAgreement? (← algorithm.parameter)
    return .dh (← PowerKey.ofPublic? group bytes)
  | .dhExtended =>
    let group ← PowerGroup.ofExtended? (← algorithm.parameter)
    return .dhExtended (← PowerKey.ofPublic? group bytes)
  | .curve =>
    return .curve (← CurveKey.ofPoint? (← CurveParameters.ofValue? (← algorithm.parameter)) bytes)
  | .sm2 =>
    let key ← CurveKey.ofPoint? (← CurveParameters.ofValue? (← algorithm.parameter)) bytes
    if key.parameters.isSm2 then return .curve key else none
  | .octets kind =>
    if algorithm.parameter.isNone ∧ bytes.length = kind.size then return .octets kind bytes
    else none

/-- The key of a public key value, an algorithm and a string of bits, which is read as a stream. -/
def ofValue? (v : Value) : Option PublicKey := do
  if !Asn1.isStreamed v.encoded then none
  match ← v.items? with
  | [algorithm, bits] => ofNamed? (← AlgorithmName.ofValue? algorithm) (← bits.bits?).bytes
  | _ => none

end PublicKey
end WebSso
