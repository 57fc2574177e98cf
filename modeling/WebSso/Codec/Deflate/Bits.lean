import WebSso.Codec.Base64

/-!
# A stream of bits

Compressed data is read bit by bit.  The bits of a byte come lowest first, and a number of several
bits comes lowest bit first.

## What is here

* `BitStream`, the bits left of the byte that is being read and the bytes behind it;
* `BitStream.toList`, the view: all bits that are still to come;
* `Halt`, why a stream cannot be read on;
* `BitStream.bit` and `BitStream.number`, which take bits from the front;
* `BitStream.alignedBytes`, which gives up the rest of a byte.
-/

set_option autoImplicit false
namespace WebSso
namespace Deflate

/-- The bits of a byte, lowest first. -/
def bitsOfByte (b : UInt8) : List Bool := (List.range 8).map fun i => b.toNat.testBit i

/-- What is still to be read. -/
structure BitStream where
  /-- The bits left of the byte that is being read. -/
  pending : List Bool
  /-- The bytes behind it. -/
  bytes : Bytes
  deriving DecidableEq

/-- Why a stream cannot be read on. -/
inductive Halt where
  /-- The stream ends in the middle. -/
  | ended
  /-- The stream breaks a rule of the format. -/
  | damaged
  /-- There is no room for more data. -/
  | full
  deriving DecidableEq

namespace BitStream

/-- A stream from the start of some bytes. -/
def ofBytes (bytes : Bytes) : BitStream := ⟨[], bytes⟩

/-- The bits that are still to come. -/
def toList (s : BitStream) : List Bool := s.pending ++ s.bytes.flatMap bitsOfByte

/-- How many bits are still to come. -/
def size (s : BitStream) : Nat := s.pending.length + 8 * s.bytes.length

/-- The next bit and the stream behind it. -/
def bit (s : BitStream) : Except Halt (Bool × BitStream) :=
  match s.pending, s.bytes with
  | b :: rest, bytes => .ok (b, ⟨rest, bytes⟩)
  | [], byte :: bytes =>
    match bitsOfByte byte with
    | b :: rest => .ok (b, ⟨rest, bytes⟩)
    | [] => .error .ended
  | [], [] => .error .ended

/-- The number of the next `width` bits and the stream behind them. -/
def number : Nat → BitStream → Except Halt (Nat × BitStream)
  | 0, s => .ok (0, s)
  | width + 1, s => do
    let (b, s) ← s.bit
    let (n, s) ← number width s
    return (b.toNat + 2 * n, s)

/-- The bytes that start behind the byte that is being read. -/
def alignedBytes (s : BitStream) : Bytes := s.bytes

end BitStream

end Deflate
end WebSso
