import WebSso.Crypto.Curve.Edwards
import WebSso.Crypto.Curve.Montgomery
import WebSso.Crypto.Digest.Sha512
import WebSso.Crypto.Digest.Shake256

/-!
# Keys that are strings of bytes

On some curves both halves of a key are a fixed number of bytes.

## What is here

* `OctetKind`, the kinds of such keys, and `OctetKind.publicOf`, the public half of a private key.
-/

set_option autoImplicit false
namespace WebSso

/-- The kinds of keys that are strings of bytes: two to agree on a secret and two to sign. -/
inductive OctetKind where
  | x25519
  | x448
  | ed25519
  | ed448
  deriving DecidableEq

namespace OctetKind

/-- Every kind. -/
def all : List OctetKind := [x25519, x448, ed25519, ed448]

/-- The numbers of the path that names a kind. -/
def name : OctetKind → List Nat
  | x25519 => [1, 3, 101, 110]
  | x448 => [1, 3, 101, 111]
  | ed25519 => [1, 3, 101, 112]
  | ed448 => [1, 3, 101, 113]

/-- How many bytes each half of a key has. -/
def size : OctetKind → Nat
  | x25519 | ed25519 => 32
  | x448 => 56
  | ed448 => 57

/-- The factor of some bytes: the lowest bits are dropped and the highest is set, so that factors
have one length and miss no part of the group that matters. -/
def factor (lowBits highBit : Nat) (bytes : Bytes) : Nat :=
  let n := bytes.littleEndian % 2 ^ highBit
  n - n % 2 ^ lowBits + 2 ^ highBit

/-- The public half of a private key.  The keys that sign are digested first. -/
def publicOf (kind : OctetKind) (secret : Bytes) : Bytes :=
  match kind with
  | x25519 =>
    let c := Montgomery.curve25519
    Bytes.ofLittleEndian c.size (c.multiply (factor 3 254 secret))
  | x448 =>
    let c := Montgomery.curve448
    Bytes.ofLittleEndian c.size (c.multiply (factor 2 447 secret))
  | ed25519 =>
    let c := Edwards.curve25519
    c.write (c.multiply (factor 3 254 ((Sha512.digest secret).take 32)) c.base)
  | ed448 =>
    let c := Edwards.curve448
    c.write (c.multiply (factor 2 447 ((Shake256.digest secret 114).take 57)) c.base)

end OctetKind
end WebSso
