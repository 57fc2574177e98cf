import WebSso.Codec.Bytes

/-!
# Tags of ASN.1 values

Certificates and keys are nested values, each of which starts with a tag that tells its kind.

## What is here

* `Asn1.Tag`, a number of one of four families, and the tags of the kinds that are used;
* `Tag.next?`, the tag at the front of some bytes.
-/

set_option autoImplicit false
namespace WebSso
namespace Asn1

/-- Who gives the numbers of a family of tags their meaning. -/
inductive TagFamily where
  /-- The language itself. -/
  | universal
  /-- A whole application. -/
  | application
  /-- The place in which the value stands. -/
  | context
  /-- An agreement. -/
  | agreed
  deriving DecidableEq

/-- The family of the number that the two highest bits of a tag make up. -/
def TagFamily.ofNumber : Nat → TagFamily
  | 0 => .universal
  | 1 => .application
  | 2 => .context
  | _ => .agreed

/-- The kind of a value. -/
structure Tag where
  /-- Who gives the number its meaning. -/
  family : TagFamily
  /-- The number. -/
  number : Nat
  deriving DecidableEq

namespace Tag

/-- A truth value. -/
def boolean : Tag := ⟨.universal, 1⟩

/-- A whole number. -/
def integer : Tag := ⟨.universal, 2⟩

/-- A string of bits. -/
def bitString : Tag := ⟨.universal, 3⟩

/-- A string of bytes. -/
def octetString : Tag := ⟨.universal, 4⟩

/-- Nothing. -/
def null : Tag := ⟨.universal, 5⟩

/-- The name of an algorithm, of a field or of a curve. -/
def objectId : Tag := ⟨.universal, 6⟩

/-- One of some numbers. -/
def enumerated : Tag := ⟨.universal, 10⟩

/-- A text in UTF-8. -/
def utf8 : Tag := ⟨.universal, 12⟩

/-- A list of values. -/
def sequence : Tag := ⟨.universal, 16⟩

/-- A set of values. -/
def set : Tag := ⟨.universal, 17⟩

/-- A time with a year of two digits. -/
def utcTime : Tag := ⟨.universal, 23⟩

/-- A time with a year of four digits. -/
def generalizedTime : Tag := ⟨.universal, 24⟩

/-- A text of characters of four bytes. -/
def universalString : Tag := ⟨.universal, 28⟩

/-- A text of characters of two bytes. -/
def bmpString : Tag := ⟨.universal, 30⟩

/-- The tag that a place gives to one of its values. -/
def place (n : Nat) : Tag := ⟨.context, n⟩

/-! ## Reading -/

/-- The number that stands in place of a small one if the number follows in bytes of its own. -/
def escape : Nat := 31

/-- The numbers of tags are below this. -/
def numberBound : Nat := 2 ^ 31

/-- The number at the front of some bytes, seven bits in each byte, of which all but the last are
128 or more; `n` is the number of the bytes before. -/
def number? (n : Nat) : Bytes → Option (Nat × Bytes)
  | [] => none
  | b :: rest =>
    let n := 128 * n + b.toNat % 128
    if numberBound ≤ n then none else if b < 128 then some (n, rest) else number? n rest

/-- The tag at the front of some bytes, whether the value consists of other values, and the rest of
the bytes. -/
def next? : Bytes → Option (Tag × Bool × Bytes)
  | [] => none
  | b :: rest => do
    let family := TagFamily.ofNumber (b.toNat / 64)
    let nested := b.toNat / 32 % 2 == 1
    let n := b.toNat % 32
    let (number, rest) ← if n = escape then number? 0 rest else some (n, rest)
    return (⟨family, number⟩, nested, rest)

end Tag
end Asn1
end WebSso
