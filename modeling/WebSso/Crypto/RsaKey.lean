import WebSso.Asn1.Simple

/-!
# RSA keys

## What is here

* `RsaKey`, a public key, read by `RsaKey.ofPublic?`;
* `RsaKey.ofPrivate?`, the public half of a private key.
-/

set_option autoImplicit false
namespace WebSso

/-- An RSA public key. -/
structure RsaKey where
  /-- The modulus. -/
  modulus : Nat
  /-- The exponent. -/
  exponent : Nat
  deriving DecidableEq

namespace RsaKey

/-- The key at the front of some bytes: a list of the modulus and the exponent. -/
def ofPublic? (bytes : Bytes) : Option RsaKey := do
  let (v, _) ← Asn1.next? bytes
  match ← v.items? with
  | [n, e] => return ⟨← n.unsigned?, ← e.unsigned?⟩
  | _ => none

/-- Whether a value is a further prime of a modulus with two numbers that belong to it. -/
def isFurtherPrime (v : Asn1.Value) : Bool :=
  match v.items? with
  | some numbers => numbers.length == 3 && numbers.all fun w => w.unsigned?.isSome
  | none => false

/-- The further primes of a modulus. -/
def furtherPrimes? (v : Asn1.Value) : Option (List Asn1.Value) := do
  let primes ← v.members? .sequence
  if primes.all isFurtherPrime then return primes else none

/-- The version of a private key whose modulus has more than two primes. -/
def manyPrimes : Int := 1

/-- The public half of the private key at the front of some bytes: its version, modulus and exponent
come first, and six numbers follow, and then further primes, which are there if the version says
so. -/
def ofPrivate? (bytes : Bytes) : Option RsaKey := do
  let (v, _) ← Asn1.next? bytes
  match ← v.items? with
  | version :: n :: e :: secret =>
    let version ← version.small?
    let primes ←
      match secret.drop 6 with
      | [] => some []
      | [further] => furtherPrimes? further
      | _ => none
    if secret.length < 6 ∨ (secret.take 6).any (fun w => w.unsigned?.isNone)
        ∨ (version = manyPrimes ∧ primes.isEmpty) then none
    else return ⟨← n.unsigned?, ← e.unsigned?⟩
  | _ => none

end RsaKey

end WebSso
