import WebSso.Asn1.Simple
import WebSso.Crypto.Modular

/-!
# Keys that are powers

Some public keys are a power of a known base modulo a known prime, and the exponent is the private
key.

## What is here

* `PowerKey`, a public key with its base and prime, read by `PowerKey.ofPublic?`;
* `PowerKey.ofPrivate?` and `PowerKey.ofPlainPrivate?`, the public half of a private key.
-/

set_option autoImplicit false
namespace WebSso

/-- The prime and the base of powers. -/
structure PowerGroup where
  /-- The prime. -/
  prime : Nat
  /-- The base. -/
  base : Nat
  deriving DecidableEq

namespace PowerGroup

/-- The group of a list of a prime, a factor of what precedes it, and a base. -/
def ofSignature? (v : Asn1.Value) : Option PowerGroup := do
  match ← v.items? with
  | [p, q, g] => if q.unsigned?.isSome then return ⟨← p.unsigned?, ← g.unsigned?⟩ else none
  | _ => none

/-- The group of a list of a prime and a base, behind which a length may stand. -/
def ofAgreement? (v : Asn1.Value) : Option PowerGroup := do
  match ← v.items? with
  | [p, g] => return ⟨← p.unsigned?, ← g.unsigned?⟩
  | [p, g, length] =>
    if length.small?.isSome then return ⟨← p.unsigned?, ← g.unsigned?⟩ else none
  | _ => none

/-- Whether a value tells how a prime was found. -/
def isProof (v : Asn1.Value) : Bool :=
  match v.items? with
  | some [seed, counter] => seed.bits?.isSome && counter.unsigned?.isSome
  | _ => false

/-- Whether values are what may follow a group: a number, and how the prime was found. -/
def isExtension : List Asn1.Value → Bool
  | [] => true
  | [v] => v.unsigned?.isSome || isProof v
  | [n, v] => n.unsigned?.isSome && isProof v
  | _ => false

/-- The group of a list of a prime, a base and a factor of what precedes the prime, behind which
more may stand. -/
def ofExtended? (v : Asn1.Value) : Option PowerGroup := do
  match ← v.items? with
  | p :: g :: q :: rest =>
    if q.unsigned?.isSome ∧ isExtension rest then return ⟨← p.unsigned?, ← g.unsigned?⟩ else none
  | _ => none

/-- How many bits the prime of an agreement has at least and at most. -/
def agreementBits : Nat × Nat := (512, 10000)

/-- Whether a group is one to agree on a secret in. -/
def isUsable (g : PowerGroup) : Bool :=
  2 ^ (agreementBits.1 - 1) ≤ g.prime && g.prime < 2 ^ agreementBits.2

end PowerGroup

/-- A public key. -/
structure PowerKey where
  /-- The prime and the base. -/
  group : PowerGroup
  /-- The power. -/
  power : Int
  deriving DecidableEq

namespace PowerKey

/-- The key of a group and a whole number at the front of some bytes. -/
def ofPublic? (group : PowerGroup) (bytes : Bytes) : Option PowerKey := do
  let (v, _) ← Asn1.next? bytes
  if v.isInteger then return ⟨group, Asn1.Value.signed v.content⟩ else none

/-- The public half of a private key, a whole number at the front of some bytes.  What is below zero
counts as what is above. -/
def ofPrivate? (group : PowerGroup) (bytes : Bytes) : Option PowerKey := do
  let (v, _) ← Asn1.next? bytes
  if v.isInteger ∧ group.prime % 2 = 1 then
    let exponent := (Asn1.Value.signed v.content).natAbs
    return ⟨group, Modular.power group.prime group.base exponent⟩
  else none

/-- The public half of a private key that is not negative, as keys that sign are. -/
def ofSigning? (group : PowerGroup) (bytes : Bytes) : Option PowerKey := do
  let (v, _) ← Asn1.next? bytes
  if v.isNegative then none else ofPrivate? group bytes

/-- The public half of a private key that holds all numbers: its version, the prime, a factor, the
base, the power and the exponent. -/
def ofPlainPrivate? (bytes : Bytes) : Option PowerKey := do
  let (v, _) ← Asn1.next? bytes
  match ← v.items? with
  | [version, p, q, g, y, x] =>
    if version.small?.isSome ∧ q.unsigned?.isSome ∧ x.unsigned?.isSome then
      return ⟨⟨← p.unsigned?, ← g.unsigned?⟩, ← y.unsigned?⟩
    else none
  | _ => none

end PowerKey
end WebSso
