import WebSso.Asn1.Value

/-!
# Simple values in ASN.1

## What is here

* `Value.isInteger`, `Value.isObjectId` and the like, whether a value is a well formed one of its
  kind;
* `Value.unsigned?` and `Value.small?`, the number of an integer;
* `Value.octets?` and `Value.bits?`, what a string of bytes and one of bits hold;
* `Value.isNameText`, whether a value is a text that can stand in a name.
-/

set_option autoImplicit false
namespace WebSso
namespace Asn1
namespace Value

/-! ## Numbers and paths -/

/-- Whether some content is that of a whole number, in no more bytes than it takes. -/
def isShortest : Bytes → Bool
  | [] => false
  | [_] => true
  | a :: b :: _ => !(a == 0 && b < 128) && !(a == 255 && 128 ≤ b)

/-- Whether a value is a whole number. -/
def isInteger (v : Value) : Bool := v.tag = .integer && !v.nested && isShortest v.content

/-- Whether a whole number is below zero. -/
def isNegative (v : Value) : Bool :=
  match v.content with
  | b :: _ => 128 ≤ b
  | [] => false

/-- Whether a value is a whole number above zero. -/
def isPositive (v : Value) : Bool :=
  v.isInteger && !v.isNegative && v.content.any fun b => b != 0

/-- The number of an integer that is never negative, in any number of bytes. -/
def unsigned? (v : Value) : Option Nat :=
  if v.tag = .integer ∧ !v.nested then some v.content.bigEndian else none

/-- The number of some content, which is negative if its highest bit is set. -/
def signed (bytes : Bytes) : Int :=
  let n := bytes.bigEndian
  if 2 * n < 256 ^ bytes.length then n else n - (256 ^ bytes.length : Nat)

/-- The number of an integer of at most four bytes.  No bytes at all make up zero. -/
def small? (v : Value) : Option Int :=
  if v.tag = .integer ∧ !v.nested ∧ v.content.length ≤ 4
      ∧ (v.content.isEmpty ∨ isShortest v.content) then
    some (signed v.content)
  else none

/-- Whether a value is a truth value. -/
def isBoolean (v : Value) : Bool := v.tag = .boolean && !v.nested && v.content.length == 1

/-- Whether bytes are the numbers of a path, each of which goes on through the bytes from 128 on;
`start` says whether a number starts here, and no number starts with a byte that adds nothing. -/
def isPathFrom : Bool → Bytes → Bool
  | start, [] => start
  | start, b :: rest => !(start && b == 128) && isPathFrom (b < 128) rest

/-- Whether bytes are a path. -/
def isPath (bytes : Bytes) : Bool := !bytes.isEmpty && isPathFrom true bytes

/-- The path of a value that names an algorithm, a field or a curve. -/
def path? (v : Value) : Option Bytes :=
  if v.tag = .objectId ∧ !v.nested ∧ isPath v.content then some v.content else none

/-- Whether a value names an algorithm, a field or a curve. -/
def isObjectId (v : Value) : Bool := v.path?.isSome

/-! ## Strings -/

/-- The bytes of a value that is a string of bytes. -/
def octets? (v : Value) : Option Bytes := if v.tag = .octetString then v.bytes? else none

/-- Bytes of which the last bits, up to seven, are zero. -/
def clearLast (unused : Nat) (bytes : Bytes) : Bytes :=
  match bytes.getLast? with
  | some b => bytes.dropLast ++ [UInt8.ofNat (b.toNat / 2 ^ unused * 2 ^ unused)]
  | none => []

/-- A string of bits. -/
structure Bits where
  /-- How many bits of the last byte are not used. -/
  unused : Nat
  /-- The bytes; bits that are not used are zero. -/
  bytes : Bytes
  deriving DecidableEq

/-- The bits of a count of unused bits and some bytes. -/
def bitsOf? : Bytes → Option Bits
  | [] => none
  | unused :: bytes =>
    if 7 < unused then none
    else if bytes.isEmpty then some ⟨0, []⟩
    else some ⟨unused.toNat, clearLast unused.toNat bytes⟩

/-- The bits of a value, whatever its tag. -/
def anyBits? (v : Value) : Option Bits := v.bytes?.bind bitsOf?

/-- The bits of a value that is a string of bits. -/
def bits? (v : Value) : Option Bits := if v.tag = .bitString then v.anyBits? else none

/-! ## Texts -/

/-- The numbers of characters of some bytes, `n` bytes for each, the highest first. -/
def characters (n : Nat) (bytes : Bytes) : List Nat :=
  match n, bytes with
  | 0, _ | _, [] => []
  | n + 1, b :: rest =>
    Bytes.bigEndian (b :: rest.take n) :: characters (n + 1) (rest.drop n)
  termination_by bytes.length
  decreasing_by simp only [List.length_cons, List.length_drop]; omega

/-- Whether bytes are a text of characters of `n` bytes. -/
def isWideText (n : Nat) (bytes : Bytes) : Bool :=
  bytes.length % n == 0 && (characters n bytes).all fun c => decide c.isValidChar

/-- The numbers of the tags of values that can stand in a name. -/
def nameTags : List Nat := [3, 7, 8, 9, 11, 12, 13, 14, 15, 16, 18, 19, 20, 22, 28, 29, 30]

/-- Whether a value is a text that can stand in a name, or something else that can. -/
def isNameText (v : Value) : Bool :=
  v.tag.family = .universal && nameTags.contains v.tag.number
    && if v.tag = .sequence then v.nested
      else if v.tag = .bitString then v.bits?.isSome
      else
        match v.bytes? with
        | none => false
        | some bytes =>
          if v.tag = .utf8 then bytes.isText
          else if v.tag = .bmpString then isWideText 2 bytes
          else if v.tag = .universalString then isWideText 4 bytes
          else true

end Value
end Asn1
end WebSso
