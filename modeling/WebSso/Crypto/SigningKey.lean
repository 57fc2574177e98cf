import WebSso.Crypto.Certificate
import WebSso.Crypto.PrivateKey
import WebSso.Text.Described

/-!
# Signing keys

## What is here

* `SigningKey`, a private key together with the certificate of its public half, read by
  `SigningKey.ofPem`.
-/

set_option autoImplicit false
namespace WebSso

/-- A private key and the certificate of its public half.  Of the private key only the public half
is kept here: signing is done elsewhere. -/
structure SigningKey where
  /-- The public half of the key. -/
  publicKey : PublicKey
  /-- The certificate that vouches for it. -/
  certificate : Certificate
  deriving DecidableEq

namespace SigningKey

/-- The signing key of two PEM texts.  The private key is looked at first, then the certificate,
then whether they belong together, which takes a certificate whose key can be read. -/
def ofPem (key certificate : Bytes) : Except Fault SigningKey :=
  match PrivateKey.publicOfPem? key with
  | none => .error (.key "invalid private key:")
  | some publicKey =>
    match Certificate.ofPem? certificate with
    | none => .error Certificate.invalid
    | some certificate =>
      match certificate.publicKey with
      | none => .error .crypto
      | some certified =>
        if certified = publicKey then .ok ⟨publicKey, certificate⟩
        else .error (.key "private key does not match the certificate")

/-- How a signing key is shown: nothing of it is. -/
def describe (_ : SigningKey) : String := describePartly "SigningKey" []

end SigningKey
end WebSso
