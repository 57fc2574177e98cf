import WebSso.Crypto.CurveParameters

/-!
# Keys on curves

## What is here

* `CurveKey`, a point of a group, read by `CurveKey.ofPoint?`;
* `CurveSecret`, a private key with its public half, read by `CurveSecret.ofBytes?`.
-/

set_option autoImplicit false
namespace WebSso

/-- A public key. -/
structure CurveKey where
  /-- The group it belongs to. -/
  parameters : CurveParameters
  /-- The multiple of the base point. -/
  point : CurvePoint
  deriving DecidableEq

namespace CurveKey

/-- The key of parameters and the bytes of a point. -/
def ofPoint? (parameters : CurveParameters) (bytes : Bytes) : Option CurveKey :=
  (parameters.group.curve.point? bytes).map fun point => ⟨parameters, point⟩

/-- The optional end of a private key: parameters and the bits of the public key, each with a tag of
its own. -/
def end? (values : List Asn1.Value) :
    Option (Option CurveParameters × Option Asn1.Value.Bits) := do
  let (parameters, values) ←
    match values with
    | v :: rest =>
      if v.tag = .place 0 then (CurveParameters.ofValue? (← v.inner?)).map fun p => (some p, rest)
      else some (none, values)
    | [] => some (none, [])
  match values with
  | [] => return (parameters, none)
  | [v] =>
    if v.tag = .place 1 then return (parameters, some (← (← v.inner?).bits?)) else none
  | _ => none

end CurveKey

/-- A private key. -/
structure CurveSecret where
  /-- The factor of the base point. -/
  factor : Nat
  /-- The public half. -/
  key : CurveKey
  /-- Whether the public half was told and not computed. -/
  isTold : Bool
  /-- Whether a curve that was told, applied or not, is meant for algorithms of its own. -/
  isSm2 : Bool

namespace CurveSecret

/-- Whether a key is in the form that its group prescribes: the factor takes no more bytes than the
number of multiples, and the public half that was told is not the point at infinity. -/
def isRegular (s : CurveSecret) : Bool :=
  let bytesOf (n : Nat) : Nat := (bitLength n + 7) / 8
  bytesOf s.factor ≤ bytesOf s.key.parameters.group.order && (!s.isTold || s.key.point.isSome)

/-- The private key at the front of some bytes: a version and a factor, and perhaps parameters,
which replace those known before, and the public half, which is not checked. -/
def ofBytes? (known : Option CurveParameters) (bytes : Bytes) : Option CurveSecret := do
  let (v, _) ← Asn1.next? bytes
  match ← v.items? with
  | version :: factor :: rest =>
    let factor ← factor.octets?
    let (own, bits) ← CurveKey.end? rest
    let parameters ← own <|> known
    if version.small?.isNone then none
    let factor := factor.bigEndian
    let key ←
      match bits with
      | some bits => CurveKey.ofPoint? parameters bits.bytes
      | none => some ⟨parameters, parameters.group.multiple factor⟩
    let isSm2 := parameters.isSm2 || known.any CurveParameters.isSm2
    return ⟨factor, key, bits.isSome, isSm2⟩
  | _ => none

end CurveSecret
end WebSso
