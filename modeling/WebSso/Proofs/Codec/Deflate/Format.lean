import WebSso.Codec.Deflate.Inflate
import WebSso.Proofs.Codec.Deflate.Huffman

/-!
# The format of compressed data

What it means for a stream to be the compressed form of some data, told without regard to how it is
read: which bits a token is written with, a block of tokens, the codes that a block sends, a stored
block, and a run of blocks up to the last one.  The rules follow the parts of the format, and every
rule says both which bits are written and what becomes of the data.

## What is here

* `Rules`, in which readers of the format differ: what the data counts as preceded by, how many
  distance codes a block may send, and how long the only string of a code may be; `Rules.standard`
  are those of the format as it is defined, at its widest, `Rules.common` those that every reader
  keeps to, `Rules.followed` those of the reader in use;
* `WritesToken` and `WritesTokens`, the tokens of a block and the data they leave;
* `WritesRun`, `WritesLengths` and `WritesCodes`, the codes that a block sends;
* `WritesBlock` and `WritesBlocks`, blocks up to the last;
* `Rules.Inflates`, that a stream begins with the compressed form of some data.
-/

set_option autoImplicit false
namespace WebSso
namespace Deflate

open Code (HasWord word)

/-! ## Rules -/

/-- In which readers of the format differ. -/
structure Rules where
  /-- What the data counts as preceded by, so that copies may reach back into it. -/
  preset : Bytes
  /-- How many distance codes a block may send. -/
  maxDistances : Nat
  /-- How many bits the string of a symbol may have that is the only one of its code with a string.
  -/
  maxLone : Nat

namespace Rules

/-- The format as it is defined, read as widely as it can be: copies do not reach back past the
start; a block may send the lengths of 32 distance codes, although it has a use for 30 only; and the
only string of a code may be as long as any, although one bit is enough for it. -/
def standard : Rules := ⟨[], 32, Code.maxLength⟩

/-- What every reader of the format takes. -/
def common : Rules := ⟨[], 30, 1⟩

/-- The rules of the reader in use: the data counts as preceded by zeros, a block may not send more
distance codes than it has a use for, and the only string of a code has one bit. -/
def followed : Rules := ⟨List.replicate window 0, 30, 1⟩

end Rules

/-! ## Tokens -/

/-- A value of a table: the string of its range's symbol, the first of which is given, and the bits
of how far above the least value of the range it lies. -/
inductive WritesValue (lengths : List Nat) (first : Nat) (ranges : List Range) :
    Nat → List Bool → Prop
  | intro {place extra : Nat} {range : Range} (hrange : ranges[place]? = some range)
      (hword : HasWord lengths (first + place)) (hextra : extra < 2 ^ range.extraBits) :
      WritesValue lengths first ranges (range.base + extra)
        (word lengths (first + place) ++ lowBits range.extraBits extra)

/-- The bits of a token under two codes, which are given by their lengths. -/
inductive WritesToken (literals distances : List Nat) : Token → List Bool → Prop
  | literal {byte : UInt8} (h : HasWord literals byte.toNat) :
      WritesToken literals distances (.literal byte) (word literals byte.toNat)
  | copy {length distance : Nat} {v w : List Bool}
      (hlength : WritesValue literals (endOfBlock + 1) lengthRanges length v)
      (hdistance : WritesValue distances 0 distanceRanges distance w) :
      WritesToken literals distances (.copy length distance) (v ++ w)
  | stop (h : HasWord literals endOfBlock) :
      WritesToken literals distances .stop (word literals endOfBlock)

/-- The bytes of a copy: those from a distance before the end on, over again if it is longer. -/
def copied (past : Bytes) (distance length : Nat) : Bytes :=
  (List.range length).map fun i => past[past.length - distance + i % distance]?.getD 0

/-- The bits of the tokens of a block, behind some data, and the data after it. -/
inductive WritesTokens (preset : Bytes) (literals distances : List Nat) :
    Bytes → Bytes → List Bool → Prop
  | stop {past : Bytes} {w : List Bool} (h : WritesToken literals distances .stop w) :
      WritesTokens preset literals distances past past w
  | literal {past data : Bytes} {byte : UInt8} {v w : List Bool}
      (h : WritesToken literals distances (.literal byte) v)
      (hrest : WritesTokens preset literals distances (past ++ [byte]) data w) :
      WritesTokens preset literals distances past data (v ++ w)
  | copy {past data : Bytes} {length distance : Nat} {v w : List Bool}
      (h : WritesToken literals distances (.copy length distance) v)
      (hreach : distance ≤ preset.length + past.length)
      (hrest : WritesTokens preset literals distances
        (past ++ copied (preset ++ past) distance length) data w) :
      WritesTokens preset literals distances past data (v ++ w)

/-! ## Codes -/

/-- The bits of a run of lengths under the code for lengths, behind those already sent: one length,
the last one again three to six times, or three to ten or 11 to 138 zeros. -/
inductive WritesRun (code sent : List Nat) : List Nat → List Bool → Prop
  | length {n : Nat} (h : HasWord code n) (hlt : n < 16) : WritesRun code sent [n] (word code n)
  | again {last extra : Nat} (h : HasWord code 16) (hlast : sent.getLast? = some last)
      (hextra : extra < 2 ^ 2) :
      WritesRun code sent (List.replicate (3 + extra) last) (word code 16 ++ lowBits 2 extra)
  | zeros {extra : Nat} (h : HasWord code 17) (hextra : extra < 2 ^ 3) :
      WritesRun code sent (List.replicate (3 + extra) 0) (word code 17 ++ lowBits 3 extra)
  | manyZeros {extra : Nat} (h : HasWord code 18) (hextra : extra < 2 ^ 7) :
      WritesRun code sent (List.replicate (11 + extra) 0) (word code 18 ++ lowBits 7 extra)

/-- The bits of some lengths under the code for lengths: those before, all of them, and the bits of
those in between. -/
inductive WritesLengths (code : List Nat) : List Nat → List Nat → List Bool → Prop
  | done {sent : List Nat} : WritesLengths code sent sent []
  | more {sent run lengths : List Nat} {v w : List Bool} (h : WritesRun code sent run v)
      (hrest : WritesLengths code (sent ++ run) lengths w) :
      WritesLengths code sent lengths (v ++ w)

/-- Lengths of a code for tokens: they fill up everything, or there is at most one string, which is
not longer than the rules allow. -/
def Rules.IsCode (rules : Rules) (lengths : List Nat) : Prop :=
  Code.Fills lengths ∨ Code.IsSmall rules.maxLone lengths

/-- The bits of the codes that a block sends: how many lengths of each there are, the code for
lengths, and the lengths. -/
inductive WritesCodes (rules : Rules) (literals distances : List Nat) : List Bool → Prop
  | intro {triples : List Nat} {w : List Bool}
      (hliterals : 257 ≤ literals.length ∧ literals.length ≤ 286)
      (hdistances : 1 ≤ distances.length ∧ distances.length ≤ rules.maxDistances)
      (htriples : 4 ≤ triples.length ∧ triples.length ≤ 19) (hlt : ∀ n ∈ triples, n < 2 ^ 3)
      (hfills : Code.Fills (orderedLengths triples))
      (hlengths : WritesLengths (orderedLengths triples) [] (literals ++ distances) w)
      (hliteralCode : rules.IsCode literals) (hdistanceCode : rules.IsCode distances) :
      WritesCodes rules literals distances
        (lowBits 5 (literals.length - 257) ++ lowBits 5 (distances.length - 1)
          ++ lowBits 4 (triples.length - 4) ++ triples.flatMap (lowBits 3) ++ w)

/-! ## Blocks -/

/-- The most bytes of a stored block, as the number whose bits are all set. -/
def allOnes : Nat := 2 ^ 16 - 1

/-- The bits of a block behind its first, which come after `offset` bits of the stream: its kind and
what is in it.  A stored block begins with a whole byte. -/
inductive WritesBlock (rules : Rules) (offset : Nat) : Bytes → Bytes → List Bool → Prop
  | stored {past bytes : Bytes} {padding : List Bool} (hpadding : padding.length < 8)
      (hwhole : 8 ∣ offset + 2 + padding.length) (hlength : bytes.length ≤ allOnes) :
      WritesBlock rules offset past (past ++ bytes)
        (lowBits 2 0 ++ padding ++ lowBits 16 bytes.length ++ lowBits 16 (allOnes - bytes.length)
          ++ bytes.flatMap bitsOfByte)
  | fixed {past data : Bytes} {w : List Bool}
      (h : WritesTokens rules.preset fixedLiteralLengths fixedDistanceLengths past data w) :
      WritesBlock rules offset past data (lowBits 2 1 ++ w)
  | sent {past data : Bytes} {literals distances : List Nat} {v w : List Bool}
      (hcodes : WritesCodes rules literals distances v)
      (h : WritesTokens rules.preset literals distances past data w) :
      WritesBlock rules offset past data (lowBits 2 2 ++ v ++ w)

/-- The bits of blocks up to the last, which come after `offset` bits of the stream.  The first bit
of a block says whether it is the last. -/
inductive WritesBlocks (rules : Rules) : Nat → Bytes → Bytes → List Bool → Prop
  | last {offset : Nat} {past data : Bytes} {w : List Bool}
      (h : WritesBlock rules (offset + 1) past data w) :
      WritesBlocks rules offset past data (true :: w)
  | more {offset : Nat} {past mid data : Bytes} {v w : List Bool}
      (h : WritesBlock rules (offset + 1) past mid v)
      (hrest : WritesBlocks rules (offset + 1 + v.length) mid data w) :
      WritesBlocks rules offset past data (false :: v ++ w)

/-- **A stream begins with the compressed form of some data.**  What comes behind the last block
does not count. -/
def Rules.Inflates (rules : Rules) (stream data : Bytes) : Prop :=
  ∃ w, WritesBlocks rules 0 [] data w ∧ w <+: stream.flatMap bitsOfByte

end Deflate
end WebSso
