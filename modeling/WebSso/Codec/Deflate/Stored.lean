import WebSso.Codec.Deflate.Inflate

/-!
# Deflating into stored blocks

The simplest compressed form: every byte as it is, in blocks of at most 65535 bytes.  Whoever
inflates it cannot tell how much was saved, so that nothing is.

## What is here

* `Deflate.deflate`, a stream whose data is the given bytes.
-/

set_option autoImplicit false
namespace WebSso
namespace Deflate

/-- The most bytes of a stored block. -/
def maxStored : Nat := 65535

/-- A stored block: whether it is the last, its length, the length inverted, its bytes. -/
def storedBlock (last : Bool) (bytes : Bytes) : Bytes :=
  let n := bytes.length
  let inverted := maxStored - n
  (if last then 1 else 0) :: UInt8.ofNat n :: UInt8.ofNat (n / 256)
    :: UInt8.ofNat inverted :: UInt8.ofNat (inverted / 256) :: bytes

/-- Stored blocks for some bytes, of which the last says that it is. -/
def deflate (bytes : Bytes) : Bytes :=
  if bytes.length ≤ maxStored then storedBlock true bytes
  else storedBlock false (bytes.take maxStored) ++ deflate (bytes.drop maxStored)
termination_by bytes.length
decreasing_by simp only [List.length_drop, maxStored] at *; omega

end Deflate
end WebSso
