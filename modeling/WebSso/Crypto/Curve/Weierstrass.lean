import WebSso.Crypto.Modular

/-!
# Curves over the numbers modulo a prime

The points `(x, y)` with `y² = x³ + ax + b` modulo a prime, and a point at infinity, are a group.

## What is here

* `Weierstrass`, a curve, and `Weierstrass.add`;
* `Weierstrass.lift?`, the point with a given first number and one bit of the second.
-/

set_option autoImplicit false
namespace WebSso

/-- A point of a curve, none for the one at infinity. -/
abbrev CurvePoint := Option (Nat × Nat)

/-- A curve over the numbers modulo a prime. -/
structure Weierstrass where
  /-- The prime. -/
  prime : Nat
  /-- The factor of `x`. -/
  a : Nat
  /-- What is added last. -/
  b : Nat
  deriving DecidableEq

namespace Weierstrass

/-! ## The group -/

/-- The side of the equation without `y`. -/
def square (c : Weierstrass) (x : Nat) : Nat := (x * x * x + c.a * x + c.b) % c.prime

/-- Whether two numbers are a point. -/
def contains (c : Weierstrass) (x y : Nat) : Bool := y * y % c.prime == c.square x

/-- The third point on a line of some slope through two others, turned over. -/
def across (c : Weierstrass) (slope x1 y1 x2 : Nat) : CurvePoint :=
  let p := c.prime
  let x := Modular.difference p (slope * slope) (x1 + x2)
  let y := Modular.difference p (slope * Modular.difference p x1 x) y1
  some (x, y)

/-- The sum of two points. -/
def add (c : Weierstrass) : CurvePoint → CurvePoint → CurvePoint
  | none, q => q
  | p, none => p
  | some (x1, y1), some (x2, y2) =>
    let p := c.prime
    if x1 ≠ x2 then
      let slope := Modular.difference p y2 y1 * Modular.inverse p (Modular.difference p x2 x1)
      c.across slope x1 y1 x2
    else if (y1 + y2) % p = 0 then none
    else
      let slope := (3 * x1 * x1 + c.a) * Modular.inverse p (2 * y1)
      c.across slope x1 y1 x2

/-- The point with a given first number whose second number is odd or even. -/
def lift? (c : Weierstrass) (odd : Bool) (x : Nat) : Option CurvePoint := do
  let y ← Modular.squareRoot? c.prime (c.square x)
  if (y % 2 == 1) = odd then return some (x, y)
  else if y = 0 then none
  else return some (x, c.prime - y)

end Weierstrass
end WebSso
