import WebSso.Crypto.Modular

/-!
# Curves in Montgomery form

A point of `y² = x³ + Ax² + x` modulo a prime is told by `x` alone but for its sign, and so is each
of its multiples.

## What is here

* `Montgomery`, a curve with a point that its keys are multiples of, and `Montgomery.multiply`;
* `Montgomery.curve25519` and `Montgomery.curve448`.
-/

set_option autoImplicit false
namespace WebSso

/-- A curve over the numbers modulo a prime, and one of its points. -/
structure Montgomery where
  /-- The prime. -/
  prime : Nat
  /-- A fourth of the factor of `x²`, less a half. -/
  step : Nat
  /-- The first number of the point that keys are multiples of. -/
  base : Nat
  /-- How many bits a factor has. -/
  bits : Nat
  /-- How many bytes a point is written in. -/
  size : Nat

namespace Montgomery

/-- A multiple of the base point and the next one, both as fractions of `x`. -/
structure Ladder where
  /-- The numerator of the multiple. -/
  x2 : Nat
  /-- The denominator of the multiple. -/
  z2 : Nat
  /-- The numerator of the next one. -/
  x3 : Nat
  /-- The denominator of the next one. -/
  z3 : Nat

/-- The ladder with its two multiples exchanged. -/
def Ladder.swap (l : Ladder) : Ladder := ⟨l.x3, l.z3, l.x2, l.z2⟩

/-- The ladder whose first multiple is doubled; the other is the next one. -/
def double (c : Montgomery) (l : Ladder) : Ladder :=
  let p := c.prime
  let a := l.x2 + l.z2
  let b := Modular.difference p l.x2 l.z2
  let aa := a * a % p
  let bb := b * b % p
  let e := Modular.difference p aa bb
  let da := Modular.difference p l.x3 l.z3 * a % p
  let cb := (l.x3 + l.z3) * b % p
  let d := Modular.difference p da cb
  ⟨aa * bb % p, e * (aa + c.step * e) % p, (da + cb) * (da + cb) % p, c.base * (d * d % p) % p⟩

/-- The ladder one bit of the factor further. -/
def climb (c : Montgomery) (bit : Bool) (l : Ladder) : Ladder :=
  if bit then (c.double l.swap).swap else c.double l

/-- The first number of a multiple of the base point; it is zero for the point at infinity. -/
def multiply (c : Montgomery) (n : Nat) : Nat :=
  let start : Ladder := ⟨1, 0, c.base, 1⟩
  let l := (List.range c.bits).reverse.foldl (fun l i => c.climb (n.testBit i) l) start
  l.x2 * Modular.inverse c.prime l.z2 % c.prime

/-- The curve with the factor 486662 modulo `2²⁵⁵ - 19`. -/
def curve25519 : Montgomery := ⟨2 ^ 255 - 19, 121665, 9, 255, 32⟩

/-- The curve with the factor 156326 modulo `2⁴⁴⁸ - 2²²⁴ - 1`. -/
def curve448 : Montgomery := ⟨2 ^ 448 - 2 ^ 224 - 1, 39081, 5, 448, 56⟩

end Montgomery
end WebSso
