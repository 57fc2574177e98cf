import WebSso.Arithmetic

/-!
# Arithmetic modulo a prime

Numbers stand for their remainders by a prime `p`, below which all results are.

## What is here

* `Modular.power`, `Modular.difference` and `Modular.inverse`;
* `Modular.squareRoot?`, a number whose square is given.
-/

set_option autoImplicit false
namespace WebSso
namespace Modular

/-- A power of a number modulo `m`, by repeated squaring. -/
def power (m base exponent : Nat) : Nat :=
  if exponent = 0 then 1 % m
  else
    let rest := power m (base * base % m) (exponent / 2)
    if exponent % 2 = 1 then base * rest % m else rest
  termination_by exponent
  decreasing_by omega

/-- The difference of two numbers. -/
def difference (p a b : Nat) : Nat := (a + (p - b % p)) % p

/-- The inverse of a number that `p` does not divide. -/
def inverse (p a : Nat) : Nat := power p a (p - 2)

/-- The odd part of a number and how many times two divides it; `count` is how many times it was
divided before. -/
def oddPart (count n : Nat) : Nat × Nat :=
  if n = 0 ∨ n % 2 = 1 then (n, count) else oddPart (count + 1) (n / 2)
  termination_by n
  decreasing_by omega

/-- Where a number is looked for that has no root; the least is far below. -/
def searchBound : Nat := 1000

/-- A number that is not the square of any. -/
def nonSquare (p : Nat) : Nat :=
  ((List.range searchBound).find? fun z => power p z ((p - 1) / 2) == p - 1).getD 0

/-- A number whose square is given, if there is one.  With `p - 1` as an odd number times a power of
two, a power of `a` is a root but for a factor whose order is a power of two; the factor is found
step by step, as a product of powers of a number that is not a square. -/
def squareRoot? (p a : Nat) : Option Nat :=
  let (odd, twos) := oddPart 0 (p - 1)
  let step (state : Nat × Nat) (i : Nat) : Nat × Nat :=
    let (root, factor) := state
    let error := power p (root * root * inverse p a) (2 ^ (twos - 2 - i))
    (if error = p - 1 then root * factor % p else root, factor * factor % p)
  let start := power p a ((odd + 1) / 2)
  let (root, _) :=
    if twos ≤ 1 then (start, 0)
    else (List.range (twos - 1)).foldl step (start, power p (nonSquare p) odd)
  if root * root % p = a % p then some root else none

end Modular
end WebSso
