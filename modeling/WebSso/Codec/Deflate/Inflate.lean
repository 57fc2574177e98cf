import WebSso.Codec.Deflate.Huffman

/-!
# Inflating

The compressed form of HTTP-Redirect messages: blocks of data, each stored as it is or written as
literals and copies of what came before, with a fixed or a transmitted pair of prefix codes.  The
stream ends with the block that says it is the last; what follows is not looked at.

## What is here

* `Deflate.run`, the data of a stream as far as it is sound and there is room for it;
* `Deflate.inflate`, the data of a stream unless it grows past a bound;
* `Deflate.Fault`, the two ways to fail.

A copy reaches back at most 32768 bytes.  The data is taken to be preceded by that many zeros, so
that a copy which reaches back past the start yields zeros.

Data is produced a window of 32768 bytes at a time and the stream is taken in portions of that
size.  Data past the bound is noticed when a window is handed on, because it is filled or because a
portion is used up; damage further on in the same window is noticed before.
-/

set_option autoImplicit false
namespace WebSso
namespace Deflate

/-- Why there is no data. -/
inductive Fault where
  /-- The stream ends early or breaks a rule of the format. -/
  | damaged
  /-- The data grows past the bound. -/
  | tooLarge
  deriving DecidableEq

/-! ## Output -/

/-- The data at the point where a stream cannot be read on, and why. -/
structure Stop where
  /-- Why there is no more. -/
  cause : Halt
  /-- The data so far. -/
  out : Array UInt8

/-- What became of the data: it goes on behind a part of a stream, or it stops. -/
abbrev Step := Except Stop (BitStream × Array UInt8)

/-- Whether some data fits into the room that there is; without a capacity there is always room. -/
def fits (capacity : Option Nat) (out : Array UInt8) : Bool :=
  match capacity with
  | none => true
  | some n => out.size ≤ n

/-- The byte at a distance back from the end; zero before the start. -/
def byteBack (out : Array UInt8) (distance : Nat) : UInt8 :=
  if distance ≤ out.size then out[out.size - distance]?.getD 0 else 0

/-- The data with `length` bytes behind it, each equal to the byte at a distance back from it. -/
def copyBack (distance : Nat) : Nat → Array UInt8 → Array UInt8
  | 0, out => out
  | length + 1, out => copyBack distance length (out.push (byteBack out distance))

/-! ## Lengths and distances -/

/-- What a symbol of a length or a distance stands for: a base and how many bits are added. -/
structure Range where
  /-- The least value. -/
  base : Nat
  /-- The number of bits that follow. -/
  extraBits : Nat

/-- The lengths of copies, for the symbols from 257 on. -/
def lengthRanges : List Range :=
  [⟨3, 0⟩, ⟨4, 0⟩, ⟨5, 0⟩, ⟨6, 0⟩, ⟨7, 0⟩, ⟨8, 0⟩, ⟨9, 0⟩, ⟨10, 0⟩, ⟨11, 1⟩, ⟨13, 1⟩, ⟨15, 1⟩,
    ⟨17, 1⟩, ⟨19, 2⟩, ⟨23, 2⟩, ⟨27, 2⟩, ⟨31, 2⟩, ⟨35, 3⟩, ⟨43, 3⟩, ⟨51, 3⟩, ⟨59, 3⟩, ⟨67, 4⟩,
    ⟨83, 4⟩, ⟨99, 4⟩, ⟨115, 4⟩, ⟨131, 5⟩, ⟨163, 5⟩, ⟨195, 5⟩, ⟨227, 5⟩, ⟨258, 0⟩]

/-- The distances of copies. -/
def distanceRanges : List Range :=
  [⟨1, 0⟩, ⟨2, 0⟩, ⟨3, 0⟩, ⟨4, 0⟩, ⟨5, 1⟩, ⟨7, 1⟩, ⟨9, 2⟩, ⟨13, 2⟩, ⟨17, 3⟩, ⟨25, 3⟩, ⟨33, 4⟩,
    ⟨49, 4⟩, ⟨65, 5⟩, ⟨97, 5⟩, ⟨129, 6⟩, ⟨193, 6⟩, ⟨257, 7⟩, ⟨385, 7⟩, ⟨513, 8⟩, ⟨769, 8⟩,
    ⟨1025, 9⟩, ⟨1537, 9⟩, ⟨2049, 10⟩, ⟨3073, 10⟩, ⟨4097, 11⟩, ⟨6145, 11⟩, ⟨8193, 12⟩,
    ⟨12289, 12⟩, ⟨16385, 13⟩, ⟨24577, 13⟩]

/-- The value that a symbol and the bits behind it stand for. -/
def rangeValue (ranges : List Range) (symbol : Nat) (s : BitStream) :
    Except Halt (Nat × BitStream) :=
  match ranges[symbol]? with
  | none => .error .damaged
  | some range => do
    let (extra, s) ← s.number range.extraBits
    return (range.base + extra, s)

/-- The symbol that ends a block. -/
def endOfBlock : Nat := 256

/-! ## Blocks of symbols -/

/-- The two codes of a block: for literals and lengths, and for distances. -/
structure Codes where
  /-- Literals (below 256), the end of the block (256) and lengths. -/
  literals : Code
  /-- Distances. -/
  distances : Code

/-- One step of a block. -/
inductive Token where
  /-- A byte as it is. -/
  | literal (byte : UInt8)
  /-- A copy of earlier bytes. -/
  | copy (length distance : Nat)
  /-- The end of the block. -/
  | stop

/-- The next token of a block and the stream behind it. -/
def token (codes : Codes) (s : BitStream) : Except Halt (Token × BitStream) := do
  let (symbol, s) ← codes.literals.symbol s
  if symbol < endOfBlock then return (.literal (UInt8.ofNat symbol), s)
  else if symbol = endOfBlock then return (.stop, s)
  else
    let (length, s) ← rangeValue lengthRanges (symbol - 257) s
    let (symbol, s) ← codes.distances.symbol s
    let (distance, s) ← rangeValue distanceRanges symbol s
    return (.copy length distance, s)

/-- The tokens up to the end of a block, at most `fuel` of them.  Every token takes at least one
bit, so that the size of the stream is fuel enough. -/
def inflateTokens (capacity : Option Nat) (codes : Codes) :
    Nat → BitStream → Array UInt8 → Step
  | 0, _, out => .error ⟨.ended, out⟩
  | fuel + 1, s, out =>
    match token codes s with
    | .error cause => .error ⟨cause, out⟩
    | .ok (.stop, s) => .ok (s, out)
    | .ok (.literal byte, s) =>
      let out := out.push byte
      if fits capacity out then inflateTokens capacity codes fuel s out else .error ⟨.full, out⟩
    | .ok (.copy length distance, s) =>
      let out := copyBack distance length out
      if fits capacity out then inflateTokens capacity codes fuel s out else .error ⟨.full, out⟩

/-! ## Stored blocks -/

/-- A number of two bytes, the lower first. -/
def pairValue (low high : UInt8) : Nat := low.toNat + 256 * high.toNat

/-- The given number of bytes as they are. -/
def inflateStored (capacity : Option Nat) : Nat → Bytes → Array UInt8 → Step
  | 0, bytes, out => .ok (.ofBytes bytes, out)
  | count + 1, bytes, out =>
    if !fits capacity (out.push 0) then .error ⟨.full, out⟩
    else
      match bytes with
      | [] => .error ⟨.ended, out⟩
      | byte :: bytes => inflateStored capacity count bytes (out.push byte)

/-- A stored block: its length, the length with every bit inverted, and its bytes. -/
def inflateStoredBlock (capacity : Option Nat) (s : BitStream) (out : Array UInt8) : Step :=
  match s.alignedBytes with
  | a :: b :: c :: d :: bytes =>
    if pairValue a b + pairValue c d = 65535 then
      inflateStored capacity (pairValue a b) bytes out
    else .error ⟨.damaged, out⟩
  | _ => .error ⟨.ended, out⟩

/-! ## The codes of a block -/

/-- The lengths of the fixed code for literals and lengths. -/
def fixedLiteralLengths : List Nat :=
  List.replicate 144 8 ++ List.replicate 112 9 ++ List.replicate 24 7 ++ List.replicate 8 8

/-- The lengths of the fixed code for distances. -/
def fixedDistanceLengths : List Nat := List.replicate 32 5

/-- The fixed codes. -/
def fixedCodes? : Option Codes := do
  let literals ← Code.ofLengths? false fixedLiteralLengths
  let distances ← Code.ofLengths? false fixedDistanceLengths
  return ⟨literals, distances⟩

/-- The order in which the lengths of the code for lengths are sent. -/
def lengthOrder : List Nat := [16, 17, 18, 0, 8, 7, 9, 6, 10, 5, 11, 4, 12, 3, 13, 2, 14, 1, 15]

/-- The next `count` numbers of three bits. -/
def readTriples : Nat → BitStream → Except Halt (List Nat × BitStream)
  | 0, s => .ok ([], s)
  | count + 1, s => do
    let (n, s) ← s.number 3
    let (rest, s) ← readTriples count s
    return (n :: rest, s)

/-- The lengths that were sent, by symbol; a symbol of which none was sent has none. -/
def orderedLengths (sent : List Nat) : List Nat :=
  (List.range lengthOrder.length).map fun symbol =>
    sent[lengthOrder.idxOf symbol]?.getD 0

/-- Code lengths until there are `count` of them, newest first, with `fuel` symbols at most.  A
symbol below 16 is a length; 16 repeats the last one, 17 and 18 stand for runs of zeros.  A run
must not go past the end. -/
def readLengths (code : Code) (count : Nat) :
    Nat → List Nat → BitStream → Except Halt (List Nat × BitStream)
  | 0, _, _ => .error .damaged
  | fuel + 1, read, s =>
    if read.length = count then .ok (read, s)
    else if count < read.length then .error .damaged
    else do
      let (symbol, s) ← code.symbol s
      if symbol < 16 then readLengths code count fuel (symbol :: read) s
      else if symbol = 16 then
        match read with
        | [] => .error .damaged
        | last :: _ =>
          let (extra, s) ← s.number 2
          readLengths code count fuel (List.replicate (3 + extra) last ++ read) s
      else if symbol = 17 then
        let (extra, s) ← s.number 3
        readLengths code count fuel (List.replicate (3 + extra) 0 ++ read) s
      else
        let (extra, s) ← s.number 7
        readLengths code count fuel (List.replicate (11 + extra) 0 ++ read) s

/-- The code of some lengths; they break a rule of the format if they have none. -/
def codeOf (sparse : Bool) (lengths : List Nat) : Except Halt Code :=
  match Code.ofLengths? sparse lengths with
  | some code => .ok code
  | none => .error .damaged

/-- The codes that a block sends before its data. -/
def sentCodes (s : BitStream) : Except Halt (Codes × BitStream) := do
  let (n, s) ← s.number 5
  let literalCount := n + 257
  let (n, s) ← s.number 5
  let distanceCount := n + 1
  let (n, s) ← s.number 4
  if 286 < literalCount ∨ 30 < distanceCount then .error .damaged
  let (sent, s) ← readTriples (n + 4) s
  let code ← codeOf false (orderedLengths sent)
  let count := literalCount + distanceCount
  let (read, s) ← readLengths code count (count + 1) [] s
  let lengths := read.reverse
  let literals ← codeOf true (lengths.take literalCount)
  let distances ← codeOf true (lengths.drop literalCount)
  return (⟨literals, distances⟩, s)

/-! ## The stream -/

/-- The data of a block that follows its first three bits. -/
def inflateBlock (capacity : Option Nat) (kind : Nat) (s : BitStream) (out : Array UInt8) : Step :=
  if kind = 0 then inflateStoredBlock capacity s out
  else if kind = 1 then
    match fixedCodes? with
    | some codes => inflateTokens capacity codes (s.size + 1) s out
    | none => .error ⟨.damaged, out⟩
  else if kind = 2 then
    match sentCodes s with
    | .ok (codes, s) => inflateTokens capacity codes (s.size + 1) s out
    | .error cause => .error ⟨cause, out⟩
  else .error ⟨.damaged, out⟩

/-- Blocks up to the last, at most `fuel` of them.  Every block takes at least three bits, so that
the size of the stream is fuel enough. -/
def inflateBlocks (capacity : Option Nat) :
    Nat → BitStream → Array UInt8 → Except Stop (Array UInt8)
  | 0, _, out => .error ⟨.ended, out⟩
  | fuel + 1, s, out =>
    match s.number 1 with
    | .error cause => .error ⟨cause, out⟩
    | .ok (last, s) =>
      match s.number 2 with
      | .error cause => .error ⟨cause, out⟩
      | .ok (kind, s) =>
        match inflateBlock capacity kind s out with
        | .error e => .error e
        | .ok (s, out) => if last = 1 then .ok out else inflateBlocks capacity fuel s out

/-- The data of a stream, or how far it came. -/
def run (capacity : Option Nat) (bytes : Bytes) : Except Stop (Array UInt8) :=
  let s := BitStream.ofBytes bytes
  inflateBlocks capacity (s.size + 1) s #[]

/-! ## Data within a bound -/

/-- How much data is produced before it is handed on, and how much of a stream is taken in at
once. -/
def window : Nat := 32768

/-- The end of the window in which data grows past a bound. -/
def windowEnd (bound : Nat) : Nat := (bound / window + 1) * window

/-- Whether data past a bound is handed on because some bytes, not all of the stream, are used
up. -/
def overflows (bound : Nat) (bytes : Bytes) : Bool :=
  match run (some (windowEnd bound)) bytes with
  | .error ⟨.ended, out⟩ => bound < out.size
  | _ => false

/-- The parts at the front of a stream that are whole portions. -/
def portions (bytes : Bytes) : List Bytes :=
  (List.range (bytes.length / window)).map fun k => bytes.take ((k + 1) * window)

/-- The data of a stream, if it is within a bound. -/
def inflate (bound : Nat) (bytes : Bytes) : Except Fault Bytes :=
  match run (some (windowEnd bound)) bytes with
  | .ok out => if out.size ≤ bound then .ok out.toList else .error .tooLarge
  | .error ⟨.full, _⟩ => .error .tooLarge
  | .error ⟨.ended, out⟩ => .error (if bound < out.size then .tooLarge else .damaged)
  | .error ⟨.damaged, _⟩ =>
    .error (if (portions bytes).any (overflows bound) then .tooLarge else .damaged)

end Deflate
end WebSso
