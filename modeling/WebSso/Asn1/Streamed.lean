import WebSso.Asn1.Value

/-!
# Values that come in a stream

A reader that takes a value out of a stream, and does not know where it ends, looks at few bytes to
learn the length of what comes next.  So it misses some values that can be read when all bytes are
at hand.

## What is here

* `Asn1.isStreamed`, whether such a reader finds the end of the value at the front of some bytes.
-/

set_option autoImplicit false
namespace WebSso
namespace Asn1

/-- How many bytes are looked at for the header of a value. -/
def window : Nat := 8

/-- How many bytes the value at the front of a stream takes, if it is within `depth` values of open
length that end where it ends; at most `fuel` headers are read.  Every empty value with the number 0
is taken for the end of an open length. -/
def streamedLengthUpTo? : Nat → Nat → Bytes → Option Nat
  | 0, _, _ => none
  | fuel + 1, depth, bytes => do
    let seen := bytes.take window
    let (header, rest) ← header? seen
    let size := seen.length - rest.length
    match header.length with
    | none => (streamedLengthUpTo? fuel (depth + 1) (bytes.drop size)).map (· + size)
    | some n =>
      let (_, behind) ← split? (size + n) bytes
      let depth := if header.tag.number = 0 ∧ n = 0 then depth - 1 else depth
      if depth = 0 then some (size + n)
      else (streamedLengthUpTo? fuel depth behind).map (· + (size + n))

/-- Whether the end of the value at the front of some bytes is found when they come in a stream. -/
def isStreamed (bytes : Bytes) : Bool :=
  match next? bytes with
  | some (v, _) => streamedLengthUpTo? bytes.length 0 bytes == some v.encoded.length
  | none => false

end Asn1
end WebSso
