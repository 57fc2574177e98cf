import WebSso.Crypto.Curve.Group

/-!
# Curves with a name

## What is here

* `NamedCurve`, a group with the path that names it.
-/

set_option autoImplicit false
namespace WebSso

/-- A group that has a name. -/
structure NamedCurve where
  /-- The numbers of the path that names it. -/
  name : List Nat
  /-- The group. -/
  group : CurveGroup
  deriving DecidableEq

end WebSso
