import WebSso.Codec.Deflate.Bits

/-!
# Prefix codes

A symbol of compressed data is written as a string of bits, none of which starts another.  The
code is given by the lengths of these strings alone: shorter strings come before longer ones, and
among strings of one length the symbols stand in order.

## What is here

* `Code`, a prefix code as the tree of its strings, and `Code.symbol`, which reads one symbol;
* `Code.ofLengths?`, the code of a list of lengths, a symbol's length being 0 if it has no string;
* `Code.isComplete` and `Code.isSparse`, what is asked of the lengths: a code has to be complete (no
  string could be added), except that a code of one symbol, written as one bit, or of none may be
  left incomplete where the format has a use for it.
-/

set_option autoImplicit false
namespace WebSso
namespace Deflate

/-- A prefix code: the symbols at the ends of the paths that their strings describe. -/
inductive Code where
  /-- No string continues here. -/
  | vacant
  /-- A string ends here. -/
  | leaf (symbol : Nat)
  /-- Strings go on with a zero and with a one. -/
  | fork (zero one : Code)
  deriving DecidableEq

namespace Code

/-- The code in which a symbol is written as the given string, and all else as before. -/
def insert (symbol : Nat) : List Bool → Code → Code
  | [], _ => leaf symbol
  | b :: rest, code =>
    let (zero, one) := match code with
      | fork zero one => (zero, one)
      | _ => (vacant, vacant)
    if b then fork zero (insert symbol rest one) else fork (insert symbol rest zero) one

/-- The symbol whose string comes next, and the stream behind it. -/
def symbol : Code → BitStream → Except Halt (Nat × BitStream)
  | vacant, _ => .error .damaged
  | leaf symbol, s => .ok (symbol, s)
  | fork zero one, s =>
    match s.bit with
    | .error e => .error e
    | .ok (false, s) => symbol zero s
    | .ok (true, s) => symbol one s

/-! ## The code of a list of lengths -/

/-- The longest string a code can have. -/
def maxLength : Nat := 15

/-- The lowest `width` bits of a number, highest first. -/
def stringOf : Nat → Nat → List Bool
  | 0, _ => []
  | width + 1, n => stringOf width (n / 2) ++ [n % 2 == 1]

/-- The number of the first string of a length: one more than the last string of the length below,
with a zero behind it. -/
def firstString (lengths : List Nat) : Nat → Nat
  | 0 => 0
  | length + 1 =>
    2 * (firstString lengths length + if length = 0 then 0 else lengths.count length)

/-- The code in which the symbols from `symbol` on have the given lengths, of which `next` says the
number of the next string of each. -/
def addLengths (next : List Nat) (symbol : Nat) (code : Code) : List Nat → Code
  | [] => code
  | length :: rest =>
    if length = 0 then addLengths next (symbol + 1) code rest
    else
      let n := next[length]?.getD 0
      let code := code.insert symbol (stringOf length n)
      addLengths (next.set length (n + 1)) (symbol + 1) code rest

/-- Whether no symbol has a string, or one has, of one bit.  A longer string that is the only one
does not count: it is not how a code of one symbol is written, and is taken for damage. -/
def isSparse (lengths : List Nat) : Bool :=
  match lengths.filter (· ≠ 0) with
  | [] => true
  | [length] => length == 1
  | _ => false

/-- The share of all strings of the greatest length that start with a string of the code. -/
def weight (lengths : List Nat) : Nat :=
  (lengths.map fun length => if length = 0 then 0 else 2 ^ (maxLength - length)).sum

/-- Whether the strings of these lengths fill up the tree. -/
def isComplete (lengths : List Nat) : Bool := weight lengths = 2 ^ maxLength

/-- The code of a list of lengths, each at most `maxLength`.  It has to be complete; where
`sparse` is allowed, it may be that instead. -/
def ofLengths? (sparse : Bool) (lengths : List Nat) : Option Code :=
  if isComplete lengths || (sparse && isSparse lengths) then
    some (addLengths ((List.range (maxLength + 1)).map (firstString lengths)) 0 vacant lengths)
  else none

end Code
end Deflate
end WebSso
