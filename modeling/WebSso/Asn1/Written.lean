import WebSso.Asn1.Simple

/-!
# ASN.1 values in their one written form

A value can be written in several ways; one of them, with the shortest tag and length and each
string in one part, is the form in which values are compared.

## What is here

* `Asn1.pathOf`, the path of some numbers;
* `Asn1.write`, the bytes of a tag and a content, and `Asn1.writeBits`, those of a string of bits;
* `Value.rewritten?`, a value of any kind with its outermost layer in that form, if it is well
  formed.
-/

set_option autoImplicit false
namespace WebSso
namespace Asn1

/-! ## Numbers -/

/-- The bytes of a number, the highest first; none for zero. -/
def bytesOfNat (n : Nat) : Bytes :=
  if n = 0 then [] else bytesOfNat (n / 256) ++ [UInt8.ofNat n]
  termination_by n
  decreasing_by omega

/-- The bytes of a number, seven bits in each, all with the bit that says that more follow. -/
def continuedBytes (n : Nat) : Bytes :=
  if n = 0 then [] else continuedBytes (n / 128) ++ [UInt8.ofNat (128 + n % 128)]
  termination_by n
  decreasing_by omega

/-- The bytes of a number, seven bits in each, of which all but the last say that more follow. -/
def base128 (n : Nat) : Bytes := continuedBytes (n / 128) ++ [UInt8.ofNat (n % 128)]

/-- The path of some numbers, of which the first two are written as one. -/
def pathOf : List Nat → Bytes
  | a :: b :: rest => base128 (40 * a + b) ++ rest.flatMap base128
  | _ => []

/-- The number of a family in the two highest bits of a tag. -/
def TagFamily.toNumber : TagFamily → Nat
  | .universal => 0
  | .application => 1
  | .context => 2
  | .agreed => 3

/-- The bytes of a tag. -/
def Tag.write (t : Tag) (nested : Bool) : Bytes :=
  let front := 64 * t.family.toNumber + if nested then 32 else 0
  if t.number < Tag.escape then [UInt8.ofNat (front + t.number)]
  else
    UInt8.ofNat (front + Tag.escape) :: base128 t.number

/-- The bytes of a length. -/
def writeLength (n : Nat) : Bytes :=
  if n < 128 then [UInt8.ofNat n]
  else
    let digits := bytesOfNat n
    UInt8.ofNat (128 + digits.length) :: digits

/-! ## Values -/

/-- The bytes of a value of some content. -/
def write (tag : Tag) (nested : Bool) (content : Bytes) : Bytes :=
  tag.write nested ++ writeLength content.length ++ content

/-- The bytes of a list of values that are already written. -/
def writeItems (items : List Bytes) : Bytes := write .sequence true items.flatten

/-- The bytes of a string of bits. -/
def writeBits (bits : Value.Bits) : Bytes :=
  write .bitString false (UInt8.ofNat bits.unused :: bits.bytes)

namespace Value

/-- The content of a value of one of the kinds that are no list, no set and no string, if it is well
formed. -/
def plainContent? (v : Value) : Option Bytes :=
  let good :=
    !v.nested
      && if v.tag = .null then v.content.isEmpty
        else if v.tag = .boolean then v.content.length == 1
        else if v.tag = .objectId then isPath v.content
        else isShortest v.content
  if good then some v.content else none

/-- The kinds of values that are no list, no set and no string. -/
def plainTags : List Tag := [.null, .boolean, .objectId, .integer, .enumerated]

/-- The content of a string, in one part. -/
def stringContent? (v : Value) : Option Bytes := do
  let bytes ← v.bytes?
  if v.tag = .bitString then
    let bits ← bitsOf? bytes
    return UInt8.ofNat bits.unused :: bits.bytes
  else if (v.tag = .bmpString ∧ bytes.length % 2 ≠ 0)
      ∨ (v.tag = .universalString ∧ bytes.length % 4 ≠ 0) then none
  else return bytes

/-- A value of any kind with its outermost layer in the one written form, if it is well formed.
Lists, sets and values of other families keep the form that they have. -/
def rewritten? (v : Value) : Option Bytes :=
  if v.tag.family ≠ .universal then some v.encoded
  else if v.tag = .sequence ∨ v.tag = .set then
    if v.nested then some v.encoded else none
  else if plainTags.contains v.tag then v.plainContent?.map (write v.tag false)
  else v.stringContent?.map (write v.tag false)

end Value
end Asn1
end WebSso
