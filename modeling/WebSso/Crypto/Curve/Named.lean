import WebSso.Asn1.Written
import WebSso.Crypto.Curve.Named.Binary
import WebSso.Crypto.Curve.Named.Prime

/-!
# Named curves

Most curves are used by name: both sides know the equation and the point whose multiples are the
keys.  Some have two names.

## What is here

* `NamedCurve.all`, the curves that standards name;
* `NamedCurve.ofPath?`, the curve of a name, and `NamedCurve.ofGroup?`, that of a group.
-/

set_option autoImplicit false
namespace WebSso
namespace NamedCurve

/-- The curves that standards name.  Of two with one group the first is preferred. -/
def all : List NamedCurve := overPrimes ++ overBits

/-- The curve of a path. -/
def ofPath? (path : Bytes) : Option NamedCurve := all.find? fun c => Asn1.pathOf c.name == path

/-- The curve of a group. -/
def ofGroup? (g : CurveGroup) : Option NamedCurve := all.find? fun c => c.group = g

end NamedCurve
end WebSso
