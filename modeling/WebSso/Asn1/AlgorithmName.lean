import WebSso.Asn1.Written

/-!
# Names of algorithms

## What is here

* `Asn1.AlgorithmName`, the path that names an algorithm and what it is used with, read by
  `AlgorithmName.ofValue?` and written by `AlgorithmName.write`.
-/

set_option autoImplicit false
namespace WebSso
namespace Asn1

/-- The name of an algorithm and what it is used with. -/
structure AlgorithmName where
  /-- The name. -/
  path : Bytes
  /-- What it is used with. -/
  parameter : Option Value
  /-- The written form of what it is used with. -/
  written : Bytes

namespace AlgorithmName

/-- The name of a value: a path, and perhaps a value of any kind. -/
def ofValue? (v : Value) : Option AlgorithmName := do
  match ← v.items? with
  | [name] => return ⟨← name.path?, none, []⟩
  | [name, parameter] => return ⟨← name.path?, some parameter, ← parameter.rewritten?⟩
  | _ => none

/-- The bytes of a name. -/
def write (a : AlgorithmName) : Bytes :=
  writeItems [Asn1.write .objectId false a.path, a.written]

end AlgorithmName
end Asn1
end WebSso
