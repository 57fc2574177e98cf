import WebSso.Crypto.Certificate
import WebSso.Text.Described

/-!
# Trust

## What is here

* `TrustStore`, the certificates whose signatures are accepted, each held once; they are added by
  `TrustStore.add`, `TrustStore.addDer` and `TrustStore.addPem`.
-/

set_option autoImplicit false
namespace WebSso

/-- The certificates whose signatures are accepted. -/
structure TrustStore where
  /-- The certificates, first to last. -/
  certificates : List Certificate
  deriving DecidableEq

namespace TrustStore

/-- Nothing is accepted. -/
def empty : TrustStore := ⟨[]⟩

/-- Whether a certificate of these bytes is held. -/
def contains (t : TrustStore) (der : Bytes) : Bool := t.certificates.any fun c => c.der == der

/-- The store with a certificate, which is held once. -/
def add (t : TrustStore) (c : Certificate) : TrustStore :=
  if t.contains c.der then t else ⟨t.certificates ++ [c]⟩

/-- The store with the certificate of some bytes. -/
def addDer (t : TrustStore) (der : Bytes) : Except Fault TrustStore :=
  match Certificate.ofDer? der with
  | some c => .ok (t.add c)
  | none => .error Certificate.invalid

/-- The store with the first certificate of PEM text. -/
def addPem (t : TrustStore) (text : Bytes) : Except Fault TrustStore :=
  match Certificate.ofPem? text with
  | some c => .ok (t.add c)
  | none => .error Certificate.invalid

/-- How many certificates are held. -/
def size (t : TrustStore) : Nat := t.certificates.length

/-- How a store is shown. -/
def describe (t : TrustStore) : String :=
  describeRecord "TrustStore" [("certificates", toString t.size)]

end TrustStore
end WebSso
