import WebSso.Codec.Bytes

/-!
# SHA-512

A message is padded to blocks of sixteen words of 64 bits.  Each block is stretched to eighty words,
and each of these turns eight words of state once.

## What is here

* `Sha512.digest`, the 64 bytes of the digest of a message.
-/

set_option autoImplicit false
namespace WebSso
namespace Sha512

/-! ## Constants -/

/-- The greatest number below `2 ^ bits` whose power of a degree is at most `n`. -/
def rootBelow (degree bits n : Nat) : Nat :=
  (List.range bits).reverse.foldl
    (fun root i => if (root + 2 ^ i) ^ degree ≤ n then root + 2 ^ i else root) 0

/-- The first 64 bits behind the point of the root of a number below 512. -/
def rootFraction (degree n : Nat) : UInt64 :=
  UInt64.ofNat (rootBelow degree 69 (n * 2 ^ (64 * degree)))

/-- Whether a number is prime. -/
def isPrime (n : Nat) : Bool := 2 ≤ n && (List.range n).all fun d => d < 2 || n % d != 0

/-- The first eighty prime numbers. -/
def primes : List Nat := (List.range 410).filter isPrime

/-- The numbers of the rounds: fractions of cube roots of primes. -/
def roundNumbers : List UInt64 := primes.map (rootFraction 3)

/-! ## Words -/

/-- A word with its bits turned to the right. -/
def turn (x n : UInt64) : UInt64 := (x >>> n) ||| (x <<< (64 - n))

/-- Eight words of state. -/
structure State where
  /-- The first word. -/
  a : UInt64
  /-- The second word. -/
  b : UInt64
  /-- The third word. -/
  c : UInt64
  /-- The fourth word. -/
  d : UInt64
  /-- The fifth word. -/
  e : UInt64
  /-- The sixth word. -/
  f : UInt64
  /-- The seventh word. -/
  g : UInt64
  /-- The eighth word. -/
  h : UInt64

namespace State

/-- The state before the first block: fractions of square roots of primes. -/
def start : State :=
  let root := rootFraction 2
  ⟨root 2, root 3, root 5, root 7, root 11, root 13, root 17, root 19⟩

/-- The words of a state. -/
def words (s : State) : List UInt64 := [s.a, s.b, s.c, s.d, s.e, s.f, s.g, s.h]

/-- The sum of two states, word by word. -/
def add (s t : State) : State :=
  ⟨s.a + t.a, s.b + t.b, s.c + t.c, s.d + t.d, s.e + t.e, s.f + t.f, s.g + t.g, s.h + t.h⟩

/-- A state turned once by a word and the number of the round. -/
def round (s : State) (word number : UInt64) : State :=
  let mixed := turn s.e 14 ^^^ turn s.e 18 ^^^ turn s.e 41
  let chosen := (s.e &&& s.f) ^^^ (~~~s.e &&& s.g)
  let first := s.h + mixed + chosen + number + word
  let blended := turn s.a 28 ^^^ turn s.a 34 ^^^ turn s.a 39
  let majority := (s.a &&& s.b) ^^^ (s.a &&& s.c) ^^^ (s.b &&& s.c)
  ⟨first + (blended + majority), s.a, s.b, s.c, s.d + first, s.e, s.f, s.g⟩

end State

/-! ## Blocks -/

/-- The words of a block and `n` more, last first; `words` are those there are. -/
def stretch : Nat → List UInt64 → List UInt64
  | 0, words => words
  | n + 1, words =>
    let at' (i : Nat) : UInt64 := words.getD i 0
    let near := turn (at' 1) 19 ^^^ turn (at' 1) 61 ^^^ (at' 1 >>> 6)
    let far := turn (at' 14) 1 ^^^ turn (at' 14) 8 ^^^ (at' 14 >>> 7)
    stretch n ((near + at' 6 + far + at' 15) :: words)

/-- The state behind a block of sixteen words. -/
def turnBlock (s : State) (block : List UInt64) : State :=
  let words := (stretch 64 block.reverse).reverse
  s.add ((words.zip roundNumbers).foldl (fun t (word, number) => t.round word number) s)

/-- A list in pieces of `n + 1` members. -/
def chunks {α : Type} (n : Nat) : List α → List (List α)
  | [] => []
  | x :: rest => (x :: rest.take n) :: chunks n (rest.drop n)
  termination_by l => l.length
  decreasing_by simp only [List.length_cons, List.length_drop]; omega

/-- A message with a mark behind it, zeros, and its length in bits. -/
def pad (message : Bytes) : Bytes :=
  let length := 8 * message.length
  let zeros := (239 - message.length % 128) % 128
  message ++ 0x80 :: List.replicate zeros 0
    ++ Bytes.ofBigEndian 16 length

/-- The digest of a message. -/
def digest (message : Bytes) : Bytes :=
  let words := (chunks 7 (pad message)).map fun bytes => UInt64.ofNat (Bytes.bigEndian bytes)
  let final := (chunks 15 words).foldl turnBlock .start
  final.words.flatMap fun x => Bytes.ofBigEndian 8 x.toNat

end Sha512
end WebSso
