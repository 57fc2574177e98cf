import WebSso.Asn1.Simple
import WebSso.Crypto.Curve.Named

/-!
# Parameters of keys on curves

A key on a curve tells the group it belongs to, by name or by all the numbers that make it up.

## What is here

* `CurveField`, the field of a curve, read by `CurveField.ofValue?`;
* `CurveParameters`, a group and its name, read by `CurveParameters.ofValue?`.
-/

set_option autoImplicit false
namespace WebSso

/-! ## Fields -/

/-- A field over which there are curves. -/
inductive CurveField where
  /-- The numbers modulo a prime. -/
  | prime (p : Nat)
  /-- Polynomials of bits. -/
  | binary (f : BinaryField)
  deriving DecidableEq

namespace CurveField

/-- How many bits a field may have. -/
def maxBits : Nat := 661

/-- How many bits a member takes at most. -/
def bits : CurveField → Nat
  | prime p => bitLength p
  | binary f => f.degree

/-- The curve of the two numbers of its equation. -/
def curve : CurveField → Nat → Nat → EllipticCurve
  | prime p, a, b => .prime ⟨p, a % p, b % p⟩
  | binary f, a, b => .binary ⟨f, f.reduce a, f.reduce b⟩

/-- The field of a value that is a prime: an odd number that is not too small and not too large. -/
def prime? (v : Asn1.Value) : Option CurveField :=
  let p := v.content.bigEndian
  if v.isPositive ∧ 2 < bitLength p ∧ bitLength p ≤ maxBits ∧ p % 2 = 1 then some (prime p)
  else none

/-- The exponents between the first and the last of a modulus, the highest first, from a value that
holds one or three. -/
def middle? (kind : Bytes) (v : Asn1.Value) : Option (List Int) := do
  if kind = Asn1.pathOf [1, 2, 840, 10045, 1, 2, 3, 2] then return [← v.small?]
  else if kind = Asn1.pathOf [1, 2, 840, 10045, 1, 2, 3, 3] then
    return (← (← v.items?).mapM Asn1.Value.small?).reverse
  else none

/-- The field of a value that tells the exponents of a modulus, which has three or five terms. -/
def binary? (v : Asn1.Value) : Option CurveField := do
  match ← v.items? with
  | [degree, kind, middle] =>
    let degree ← degree.small?
    let middle ← middle? (← kind.path?) middle
    let exponents := degree :: middle ++ [0]
    let modulus := (exponents.map fun e => 2 ^ e.toNat).sum
    if degree ≤ maxBits ∧ (exponents.length = 3 ∨ exponents.length = 5)
        ∧ exponents.Pairwise (· > ·) then
      return binary ⟨modulus⟩
    else none
  | _ => none

/-- The field of a value that names its kind and tells the rest. -/
def ofValue? (v : Asn1.Value) : Option CurveField := do
  match ← v.items? with
  | [kind, rest] =>
    let kind ← kind.path?
    if kind = Asn1.pathOf [1, 2, 840, 10045, 1, 1] then prime? rest
    else if kind = Asn1.pathOf [1, 2, 840, 10045, 1, 2] then binary? rest
    else none
  | _ => none

end CurveField

/-! ## Groups -/

/-- A group and the name by which it is known. -/
structure CurveParameters where
  /-- The name, if it has one. -/
  name : Option (List Nat)
  /-- The group. -/
  group : CurveGroup
  deriving DecidableEq

namespace CurveParameters

/-- The curve over a field of a list of the two numbers of its equation, behind which a string of
bits may stand. -/
def curve? (field : CurveField) (v : Asn1.Value) : Option EllipticCurve := do
  match ← v.items? with
  | a :: b :: seed =>
    let a ← a.octets?
    let b ← b.octets?
    let isSeed : Bool :=
      match seed with
      | [] => true
      | [bits] => bits.bits?.isSome
      | _ => false
    if isSeed then return field.curve a.bigEndian b.bigEndian else none
  | _ => none

/-- The group of a version, a field, the numbers of the equation, a point, how many multiples it
has, and perhaps how many times more points there are. -/
def group? (v : Asn1.Value) : Option CurveGroup := do
  match ← v.items? with
  | version :: field :: equation :: base :: order :: cofactor =>
    let field ← CurveField.ofValue? field
    let curve ← curve? field equation
    let base ← curve.point? (← base.octets?)
    let isCofactor : Bool :=
      match cofactor with
      | [] => true
      | [n] => n.isInteger && !n.isNegative
      | _ => false
    if version.small?.isSome ∧ order.isPositive ∧ isCofactor
        ∧ bitLength order.content.bigEndian ≤ field.bits + 1 then
      return ⟨curve, base, order.content.bigEndian⟩
    else none
  | _ => none

/-- The parameters of a group, with its name if one of the named curves is the same. -/
def ofGroup (g : CurveGroup) : CurveParameters := ⟨(NamedCurve.ofGroup? g).map NamedCurve.name, g⟩

/-- The parameters of a value: the name of a curve, or all that there is to tell about it. -/
def ofValue? (v : Asn1.Value) : Option CurveParameters :=
  match v.path? with
  | some path => (NamedCurve.ofPath? path).map fun c => ⟨some c.name, c.group⟩
  | none => (group? v).map ofGroup

/-- Whether the curve is the one that is meant for algorithms of its own. -/
def isSm2 (p : CurveParameters) : Bool := p.name == some NamedCurve.sm2.name

end CurveParameters
end WebSso
