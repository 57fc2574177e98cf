import WebSso.Codec.Bytes
import WebSso.Crypto.Modular

/-!
# Curves in Edwards form

The points `(x, y)` with `ax² + y² = 1 + dx²y²` modulo a prime are a group, whose addition needs no
cases if `d` is not a square.

## What is here

* `Edwards`, a curve with a point that its keys are multiples of, `Edwards.add` and
  `Edwards.multiply`;
* `Edwards.write`, the bytes of a point;
* `Edwards.curve25519` and `Edwards.curve448`.
-/

set_option autoImplicit false
namespace WebSso

/-- A curve over the numbers modulo a prime, and one of its points. -/
structure Edwards where
  /-- The prime. -/
  prime : Nat
  /-- The factor of `x²`. -/
  a : Nat
  /-- The factor of `x²y²`. -/
  d : Nat
  /-- The point that keys are multiples of. -/
  base : Nat × Nat
  /-- How many bytes a point is written in. -/
  size : Nat

namespace Edwards

/-- The sum of two points.  One inverse serves both numbers. -/
def add (c : Edwards) (p q : Nat × Nat) : Nat × Nat :=
  let (x1, y1) := p
  let (x2, y2) := q
  let m := c.prime
  let product := c.d * (x1 * x2 % m) % m * (y1 * y2 % m) % m
  let plus := 1 + product
  let minus := Modular.difference m 1 product
  let inverse := Modular.inverse m (plus * minus % m)
  let x := (x1 * y2 + y1 * x2) % m * minus % m * inverse % m
  let y := Modular.difference m (y1 * y2) (c.a * (x1 * x2 % m)) * plus % m * inverse % m
  (x, y)

/-- A point added to itself some times. -/
def multiply (c : Edwards) (n : Nat) (q : Nat × Nat) : Nat × Nat :=
  if n = 0 then (0, 1)
  else
    let rest := multiply c (n / 2) (c.add q q)
    if n % 2 = 1 then c.add rest q else rest
  termination_by n
  decreasing_by omega

/-- The bytes of a point: its second number, the lowest byte first, and in the last bit whether the
first number is odd. -/
def write (c : Edwards) (p : Nat × Nat) : Bytes :=
  Bytes.ofLittleEndian c.size (p.2 + p.1 % 2 * 2 ^ (8 * c.size - 1))

/-- The curve `-x² + y² = 1 - (121665/121666)x²y²` modulo `2²⁵⁵ - 19`. -/
def curve25519 : Edwards :=
  let p := 2 ^ 255 - 19
  { prime := p
    a := p - 1
    d := Modular.difference p 0 (121665 * Modular.inverse p 121666)
    base :=
      (0x216936D3CD6E53FEC0A4E231FDD6DC5C692CC7609525A7B2C9562D608F25D51A,
        0x6666666666666666666666666666666666666666666666666666666666666658)
    size := 32 }

/-- The curve `x² + y² = 1 - 39081x²y²` modulo `2⁴⁴⁸ - 2²²⁴ - 1`. -/
def curve448 : Edwards :=
  let p := 2 ^ 448 - 2 ^ 224 - 1
  { prime := p
    a := 1
    d := p - 39081
    base :=
      (0x4F1970C66BED0DED221D15A622BF36DA9E146570470F1767EA6DE324A3D3A46412AE1AF72AB66511433B80E18B00938E2626A82BC70CC05E,
        0x693F46716EB6BC248876203756C9C7624BEA73736CA3984087789C1E05A0C2D73AD3FF1CE67C39C4FDBD132C4ED7C8AD9808795BF230FA14)
    size := 57 }

end Edwards
end WebSso
