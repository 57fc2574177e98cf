import WebSso.Crypto.Curve.Weierstrass

/-!
# Curves over binary fields

Polynomials whose coefficients are bits, modulo one of them that has no factors, are a field.  A
number stands for the polynomial of its bits, so that sums are made bit by bit without carrying.
The points `(x, y)` with `y² + xy = x³ + ax² + b`, and a point at infinity, are a group.

## What is here

* `BinaryField`, with `BinaryField.times` and `BinaryField.inverse`, and `BinaryField.quadratic?`,
  which solves `z² + z = c`;
* `BinaryCurve`, a curve, with `BinaryCurve.add` and `BinaryCurve.lift?`.
-/

set_option autoImplicit false
namespace WebSso

/-- The polynomials modulo one of them. -/
structure BinaryField where
  /-- The polynomial that counts as zero. -/
  modulus : Nat
  deriving DecidableEq

namespace BinaryField

/-- The degree of the modulus, which is how many bits the members have. -/
def degree (f : BinaryField) : Nat := Nat.log2 f.modulus

/-- The product of a member and the first `n` terms of a polynomial. -/
def timesFirst (f : BinaryField) (x y n : Nat) : Nat :=
  let step (i product : Nat) : Nat :=
    let shifted := product <<< 1
    let reduced := if shifted.testBit f.degree then shifted ^^^ f.modulus else shifted
    if y.testBit i then reduced ^^^ x else reduced
  (List.range n).foldr step 0

/-- The product of two members. -/
def times (f : BinaryField) (x y : Nat) : Nat := f.timesFirst x y f.degree

/-- The member that a polynomial amounts to. -/
def reduce (f : BinaryField) (y : Nat) : Nat := f.timesFirst 1 y (Nat.log2 y + 1)

/-- The factor by which the second of two polynomials was multiplied to get the greatest common
factor of both; `g` and `h` are the factors so far. -/
def euclid : Nat → Nat → Nat → Nat → Nat → Nat
  | 0, _, _, _, _ => 0
  | fuel + 1, u, v, g, h =>
    if u ≤ 1 then g
    else if Nat.log2 u < Nat.log2 v then euclid fuel v u h g
    else
      let shift := Nat.log2 u - Nat.log2 v
      euclid fuel (u ^^^ (v <<< shift)) v (g ^^^ (h <<< shift)) h

/-- The inverse of a member that is not zero.  Each step but an exchange lowers a degree, so that
four times the degree are steps enough. -/
def inverse (f : BinaryField) (x : Nat) : Nat := euclid (4 * f.degree + 4) x f.modulus 1 0

/-- A member squared some times. -/
def squareTimes (f : BinaryField) : Nat → Nat → Nat
  | 0, x => x
  | n + 1, x => squareTimes f n (f.times x x)

/-- The square root of a member: squaring as often as there are bits changes nothing. -/
def squareRoot (f : BinaryField) (x : Nat) : Nat := f.squareTimes (f.degree - 1) x

/-- The squares of a member, each of the one before, `n` of them with the member at the front. -/
def squares (f : BinaryField) : Nat → Nat → List Nat
  | 0, _ => []
  | n + 1, x => x :: squares f n (f.times x x)

/-- The sum of some members. -/
def sum (xs : List Nat) : Nat := xs.foldl (· ^^^ ·) 0

/-- The sum of all squares of a member, each of the one before, which is zero or one. -/
def trace (f : BinaryField) (x : Nat) : Nat := sum (f.squares f.degree x)

/-- A member whose trace is one. -/
def traceOne (f : BinaryField) : Nat :=
  (((List.range f.degree).map fun i => 2 ^ i).find? fun x => f.trace x == 1).getD 0

/-- The sums of the first members of a list: of one, of two, and so on. -/
def partialSums (start : Nat) : List Nat → List Nat
  | [] => []
  | x :: rest => (start ^^^ x) :: partialSums (start ^^^ x) rest

/-- A solution of `z² + z = c`, if there is one; the other is one more. -/
def quadratic? (f : BinaryField) (c : Nat) : Option Nat :=
  let sums := partialSums 0 (f.squares (f.degree - 1) c)
  let weights := (f.squares f.degree f.traceOne).drop 1
  let z := sum ((sums.zip weights).map fun (s, w) => f.times s w)
  if f.times z z ^^^ z = c then some z else none

end BinaryField

/-! ## Curves -/

/-- A curve over a binary field. -/
structure BinaryCurve where
  /-- The field. -/
  field : BinaryField
  /-- The factor of `x²`. -/
  a : Nat
  /-- What is added last. -/
  b : Nat
  deriving DecidableEq

namespace BinaryCurve

/-- Whether two members are a point. -/
def contains (c : BinaryCurve) (x y : Nat) : Bool :=
  let f := c.field
  f.times (y ^^^ x) y == (f.times (f.times x x) (x ^^^ c.a) ^^^ c.b)

/-- The sum of two points. -/
def add (c : BinaryCurve) : CurvePoint → CurvePoint → CurvePoint
  | none, q => q
  | p, none => p
  | some (x1, y1), some (x2, y2) =>
    let f := c.field
    if x1 ≠ x2 then
      let slope := f.times (y1 ^^^ y2) (f.inverse (x1 ^^^ x2))
      let x := f.times slope slope ^^^ slope ^^^ x1 ^^^ x2 ^^^ c.a
      some (x, f.times slope (x1 ^^^ x) ^^^ x ^^^ y1)
    else if y1 ≠ y2 ∨ x1 = 0 then none
    else
      let slope := x1 ^^^ f.times y1 (f.inverse x1)
      let x := f.times slope slope ^^^ slope ^^^ c.a
      some (x, f.times x1 x1 ^^^ f.times (slope ^^^ 1) x)

/-- The bit that tells a point from the other one with the same first member: whether the second
divided by the first is odd. -/
def isOdd (c : BinaryCurve) (x y : Nat) : Bool :=
  x != 0 && (c.field.times y (c.field.inverse x)).testBit 0

/-- The point with a given first member and a given bit.  There is one point with the first member
zero, and the bit is not looked at. -/
def lift? (c : BinaryCurve) (odd : Bool) (x : Nat) : Option CurvePoint :=
  let f := c.field
  if x = 0 then some (some (0, f.squareRoot c.b))
  else
    let inverse := f.inverse x
    let constant := f.times c.b (f.times inverse inverse) ^^^ c.a ^^^ x
    (f.quadratic? constant).map fun z =>
      let z := if z.testBit 0 = odd then z else z ^^^ 1
      some (x, f.times x z)

end BinaryCurve
end WebSso
