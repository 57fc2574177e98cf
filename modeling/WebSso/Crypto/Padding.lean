import WebSso.Asn1.AlgorithmName

/-!
# Random padding of signatures

RSA signatures may be padded at random.  A key that may only be used so can say with which digest,
which mask and how many random bytes.

## What is here

* `Padding.digests`, the digests that are known;
* `Padding.isAllowed`, whether the name of an algorithm says these things in a way that can be read.
-/

set_option autoImplicit false
namespace WebSso
namespace Padding

open Asn1 (Value AlgorithmName)

/-- The paths that name digests, and those that name a signature and so the digest in it. -/
def digests : List (List Nat) :=
  let family (path : List Nat) (last : List Nat) : List (List Nat) := last.map fun n => path ++ [n]
  family [1, 2, 840, 113549, 2] [4, 5]
    ++ family [1, 2, 840, 113549, 1, 1] [3, 4, 5, 11, 12, 13, 14, 15, 16]
    ++ family [2, 16, 840, 1, 101, 3, 4, 2] [1, 2, 3, 4, 5, 6, 7, 8, 9, 10, 11, 12]
    ++ family [2, 16, 840, 1, 101, 3, 4, 3] [13, 14, 15, 16]
    ++ family [1, 3, 14, 3, 2] [26, 29]
    ++ family [1, 2, 156, 10197, 1] [401, 504]
    ++ [[1, 3, 36, 3, 2, 1], [1, 3, 36, 3, 3, 1, 2], [1, 0, 10118, 3, 0, 55],
      [1, 3, 6, 1, 4, 1, 1722, 12, 2, 1, 16], [1, 3, 6, 1, 4, 1, 1722, 12, 2, 2, 8]]

/-- The path that names the mask: 1.2.840.113549.1.1.8. -/
def maskName : List Nat := [1, 2, 840, 113549, 1, 1, 8]

/-- Whether a value names a digest that is known. -/
def isDigest (v : Value) : Bool :=
  match AlgorithmName.ofValue? v with
  | some a => digests.any fun name => Asn1.pathOf name == a.path
  | none => false

/-- Whether a value names the mask and the digest it is made with. -/
def isMask (v : Value) : Bool :=
  match AlgorithmName.ofValue? v with
  | some a => a.path == Asn1.pathOf maskName && a.parameter.any isDigest
  | none => false

/-- Whether a value is a list of a digest, a mask and two numbers, each of which may be left out. -/
def isParameters (v : Value) : Bool :=
  match v.items? with
  | none => false
  | some values =>
    let rest := Asn1.skip? 0 (Value.wraps isDigest) values
      >>= Asn1.skip? 1 (Value.wraps isMask)
      >>= Asn1.skip? 2 (Value.wraps Value.isInteger)
      >>= Asn1.skip? 3 (Value.wraps Value.isInteger)
    rest.any List.isEmpty

/-- Whether nothing is said about the padding, or something that can be read. -/
def isAllowed (a : AlgorithmName) : Bool := a.parameter.all isParameters

end Padding
end WebSso
