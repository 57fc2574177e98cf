import WebSso.Codec.Bytes

/-!
# SHAKE256

A state of twenty-five words of 64 bits takes up a message block by block and then gives as many
bytes as are asked for; between the blocks it is permuted.

## What is here

* `Shake256.permute`, the permutation;
* `Shake256.digest`, the digest of a message in a given number of bytes.
-/

set_option autoImplicit false
namespace WebSso
namespace Shake256

/-! ## The permutation -/

/-- Five rows of five words each. -/
abbrev State := Array UInt64

/-- The word of a column and a row, which are counted in circles. -/
def word (s : State) (x y : Nat) : UInt64 := s.getD (x % 5 + 5 * (y % 5)) 0

/-- The state of words that are given by column and row. -/
def ofWords (f : Nat → Nat → UInt64) : State := Array.ofFn (n := 25) fun i => f (i % 5) (i / 5)

/-- By how much each word is turned. -/
def turns : List UInt64 :=
  [0, 1, 62, 28, 27, 36, 44, 6, 55, 20, 3, 10, 43, 25, 39, 41, 45, 15, 21, 8, 18, 2, 61, 56, 14]

/-- The numbers of the rounds. -/
def roundNumbers : List UInt64 :=
  [0x0000000000000001, 0x0000000000008082, 0x800000000000808A, 0x8000000080008000,
    0x000000000000808B, 0x0000000080000001, 0x8000000080008081, 0x8000000000008009,
    0x000000000000008A, 0x0000000000000088, 0x0000000080008009, 0x000000008000000A,
    0x000000008000808B, 0x800000000000008B, 0x8000000000008089, 0x8000000000008003,
    0x8000000000008002, 0x8000000000000080, 0x000000000000800A, 0x800000008000000A,
    0x8000000080008081, 0x8000000000008080, 0x0000000080000001, 0x8000000080008008]

/-- A word with its bits turned to the left. -/
def turn (x n : UInt64) : UInt64 := if n = 0 then x else (x <<< n) ||| (x >>> (64 - n))

/-- Each word with the columns at both sides of its own mixed in. -/
def mixColumns (s : State) : State :=
  let column (x : Nat) : UInt64 :=
    word s x 0 ^^^ word s x 1 ^^^ word s x 2 ^^^ word s x 3 ^^^ word s x 4
  ofWords fun x y => word s x y ^^^ column (x + 4) ^^^ turn (column (x + 1)) 1

/-- The words turned and moved to other places. -/
def move (s : State) : State :=
  ofWords fun x y =>
    let from' := x + 3 * y
    turn (word s from' x) (turns.getD (from' % 5 + 5 * x) 0)

/-- Each word with the two to the right in its row mixed in. -/
def mixRows (s : State) : State :=
  ofWords fun x y => word s x y ^^^ (~~~word s (x + 1) y &&& word s (x + 2) y)

/-- One round. -/
def round (s : State) (number : UInt64) : State :=
  let mixed := mixRows (move (mixColumns s))
  mixed.setIfInBounds 0 (word mixed 0 0 ^^^ number)

/-- All rounds. -/
def permute (s : State) : State := roundNumbers.foldl round s

/-! ## The sponge -/

/-- How many bytes are taken up and given at once. -/
def rate : Nat := 136

/-- The state with a block of bytes mixed in. -/
def absorb (s : State) (block : Bytes) : State :=
  ofWords fun x y =>
    let place := 8 * (x + 5 * y)
    word s x y ^^^ UInt64.ofNat (Bytes.littleEndian ((block.drop place).take 8))

/-- The bytes that a state gives. -/
def give (s : State) : Bytes :=
  (s.toList.flatMap fun x => Bytes.ofLittleEndian 8 x.toNat).take rate

/-- The last block of a message: what is left of it, a mark, zeros and the mark of the end. -/
def lastBlock (left : Bytes) : Bytes :=
  let zeros := List.replicate (rate - left.length - 1) (0 : UInt8)
  let block := left ++ 0x1F :: zeros
  block.take (rate - 1) ++ (block.drop (rate - 1)).map fun b => b ^^^ 0x80

/-- The state that has taken up a message, of which at most `fuel` blocks are full. -/
def takeUp : Nat → State → Bytes → State
  | 0, s, _ => s
  | fuel + 1, s, message =>
    if message.length < rate then permute (absorb s (lastBlock message))
    else takeUp fuel (permute (absorb s (message.take rate))) (message.drop rate)

/-- The bytes that a state gives in `n` blocks. -/
def giveBlocks : Nat → State → Bytes
  | 0, _ => []
  | n + 1, s => give s ++ giveBlocks n (permute s)

/-- The digest of a message in a given number of bytes. -/
def digest (message : Bytes) (length : Nat) : Bytes :=
  let s := takeUp (message.length / rate + 1) (Array.replicate 25 0) message
  (giveBlocks ((length + rate - 1) / rate) s).take length

end Shake256
end WebSso
