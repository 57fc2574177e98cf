import WebSso.Arithmetic

/-!
# Bytes

## What is here

* `Bytes`, a run of bytes;
* `Bytes.ofString`, the UTF-8 form of a text, and `Bytes.isText`, whether bytes are of that form;
* `Bytes.bigEndian` and `Bytes.littleEndian`, the number of some bytes, and the bytes of a number.
-/

set_option autoImplicit false
namespace WebSso

/-- A run of bytes. -/
abbrev Bytes := List UInt8

/-- The UTF-8 form of a text. -/
def Bytes.ofString (text : String) : Bytes := text.toUTF8.data.toList

/-- Whether some bytes are the UTF-8 form of a text. -/
def Bytes.isText (bytes : Bytes) : Bool := (String.fromUTF8? ⟨bytes.toArray⟩).isSome

/-! ## Numbers -/

/-- The number of some bytes, the highest first. -/
def Bytes.bigEndian (bytes : Bytes) : Nat := bytes.foldl (fun n b => 256 * n + b.toNat) 0

/-- The number of some bytes, the lowest first. -/
def Bytes.littleEndian (bytes : Bytes) : Nat := bytes.foldr (fun b n => b.toNat + 256 * n) 0

/-- The lowest bytes of a number, the lowest first. -/
def Bytes.ofLittleEndian (size n : Nat) : Bytes :=
  (List.range size).map fun i => UInt8.ofNat (n / 256 ^ i)

/-- The lowest bytes of a number, the highest first. -/
def Bytes.ofBigEndian (size n : Nat) : Bytes := (Bytes.ofLittleEndian size n).reverse

end WebSso
