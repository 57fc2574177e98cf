import WebSso.Codec.Bytes
import WebSso.Crypto.Curve.Binary

/-!
# Groups of points

## What is here

* `EllipticCurve`, a curve over a field of either kind, with `EllipticCurve.multiply`;
* `EllipticCurve.point?`, the point of some bytes: its two numbers, or the first and one bit of the
  second;
* `CurveGroup`, a curve with a point whose multiples are keys.
-/

set_option autoImplicit false
namespace WebSso

/-- How many bits a number takes. -/
def bitLength (n : Nat) : Nat := if n = 0 then 0 else Nat.log2 n + 1

/-- A curve. -/
inductive EllipticCurve where
  /-- A curve over the numbers modulo a prime. -/
  | prime (c : Weierstrass)
  /-- A curve over a binary field. -/
  | binary (c : BinaryCurve)
  deriving DecidableEq

namespace EllipticCurve

/-! ## The group -/

/-- The sum of two points. -/
def add : EllipticCurve → CurvePoint → CurvePoint → CurvePoint
  | prime c => c.add
  | binary c => c.add

/-- A point added to itself some times. -/
def multiply (c : EllipticCurve) (n : Nat) (q : CurvePoint) : CurvePoint :=
  if n = 0 then none
  else
    let rest := multiply c (n / 2) (c.add q q)
    if n % 2 = 1 then c.add rest q else rest
  termination_by n
  decreasing_by omega

/-- Whether two numbers are a point. -/
def contains : EllipticCurve → Nat → Nat → Bool
  | prime c => c.contains
  | binary c => c.contains

/-! ## Bytes -/

/-- How many bits a number of a point takes at most. -/
def fieldBits : EllipticCurve → Nat
  | prime c => bitLength c.prime
  | binary c => c.field.degree

/-- How many bytes a number of a point takes. -/
def size (c : EllipticCurve) : Nat := (c.fieldBits + 7) / 8

/-- Whether a number is one that a point can have. -/
def isCoordinate (c : EllipticCurve) (n : Nat) : Bool :=
  match c with
  | prime c => n < c.prime
  | binary _ => bitLength n ≤ c.fieldBits

/-- A number of a point. -/
def coordinate? (c : EllipticCurve) (bytes : Bytes) : Option Nat :=
  let n := bytes.bigEndian
  if bytes.length = c.size ∧ c.isCoordinate n then some n else none

/-- The bit that tells a point from the other one with the same first number. -/
def isOdd : EllipticCurve → Nat → Nat → Bool
  | prime _, _, y => y % 2 == 1
  | binary c, x, y => c.isOdd x y

/-- The point with a given first number and a given bit. -/
def lift? : EllipticCurve → Bool → Nat → Option CurvePoint
  | prime c => c.lift?
  | binary c => c.lift?

/-- The point of two numbers, if they are on the curve; the bit has to be right if it is given. -/
def pair? (c : EllipticCurve) (bit : Option Bool) (bytes : Bytes) : Option CurvePoint := do
  let x ← c.coordinate? (bytes.take c.size)
  let y ← c.coordinate? (bytes.drop c.size)
  if bit.all (· == c.isOdd x y) ∧ c.contains x y then return some (x, y) else none

/-- The point of some bytes.  The first of them tells how the point is written. -/
def point? (c : EllipticCurve) : Bytes → Option CurvePoint
  | [] => none
  | form :: bytes =>
    if form = 0 then if bytes.isEmpty then some none else none
    else if form = 2 ∨ form = 3 then (c.coordinate? bytes).bind (c.lift? (form = 3))
    else if form = 4 then c.pair? none bytes
    else if form = 6 ∨ form = 7 then c.pair? (some (form = 7)) bytes
    else none

end EllipticCurve

/-! ## Groups -/

/-- A curve with a point whose multiples are keys. -/
structure CurveGroup where
  /-- The curve. -/
  curve : EllipticCurve
  /-- The point. -/
  base : CurvePoint
  /-- How many multiples it has. -/
  order : Nat
  deriving DecidableEq

/-- A multiple of the base point. -/
def CurveGroup.multiple (g : CurveGroup) (n : Nat) : CurvePoint :=
  g.curve.multiply (n % g.order) g.base

end WebSso
