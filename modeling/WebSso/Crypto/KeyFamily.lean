import WebSso.Asn1.Written
import WebSso.Crypto.OctetKey

/-!
# Families of keys

## What is here

* `KeyFamily`, the families of keys, with `KeyFamily.names`, the paths that name each;
* `KeyFamily.ofPath?` and `KeyFamily.ofMainPath?`, the family of a path.
-/

set_option autoImplicit false
namespace WebSso

/-- The families of keys. -/
inductive KeyFamily where
  /-- RSA in all its uses. -/
  | rsa
  /-- RSA for signatures with random padding. -/
  | rsaPss
  /-- Powers that sign. -/
  | dsa
  /-- Powers to agree on a secret. -/
  | dh
  /-- Powers to agree on a secret, with more said about the group. -/
  | dhExtended
  /-- Points of a curve. -/
  | curve
  /-- Points of the curve that is meant for algorithms of its own. -/
  | sm2
  /-- Strings of bytes. -/
  | octets (kind : OctetKind)
  deriving DecidableEq

namespace KeyFamily

/-- Every family. -/
def all : List KeyFamily :=
  [rsa, rsaPss, dsa, dh, dhExtended, curve, sm2] ++ OctetKind.all.map octets

/-- The numbers of the path that names a family, and of those that once did. -/
def names : KeyFamily → List (List Nat)
  | rsa => [[1, 2, 840, 113549, 1, 1, 1], [2, 5, 8, 1, 1]]
  | rsaPss => [[1, 2, 840, 113549, 1, 1, 10]]
  | dsa =>
    [[1, 2, 840, 10040, 4, 1], [1, 3, 14, 3, 2, 12], [1, 3, 14, 3, 2, 27],
      [1, 2, 840, 10040, 4, 3], [1, 3, 14, 3, 2, 13]]
  | dh => [[1, 2, 840, 113549, 1, 3, 1]]
  | dhExtended => [[1, 2, 840, 10046, 2, 1]]
  | curve => [[1, 2, 840, 10045, 2, 1]]
  | sm2 => [[1, 2, 156, 10197, 1, 301]]
  | octets kind => [kind.name]

/-- The family of a path, one that once named it included. -/
def ofPath? (path : Bytes) : Option KeyFamily :=
  all.find? fun f => f.names.any fun name => Asn1.pathOf name == path

/-- The family that a path names. -/
def ofMainPath? (path : Bytes) : Option KeyFamily :=
  all.find? fun f => (f.names.take 1).any fun name => Asn1.pathOf name == path

end KeyFamily
end WebSso
