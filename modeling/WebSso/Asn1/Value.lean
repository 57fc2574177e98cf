import WebSso.Asn1.Tag

/-!
# Values in ASN.1

A value is a tag, a length and the content of that length.  The length of a value that consists of
others may also be left open, and then a mark follows the last of them.

## What is here

* `Asn1.Value`, a tag with its content and the bytes of the whole value;
* `Asn1.next?`, the value at the front of some bytes;
* `Value.values?`, the values that a value consists of: `Value.items?` if it is a list of fixed
  shape, `Value.members?` if it is a list or a set of any length, `Value.inner?` if it only gives a
  tag to another one;
* `Value.bytes?`, the bytes of a string, whole or in parts;
* `Asn1.skip?`, values behind an optional one.
-/

set_option autoImplicit false
namespace WebSso
namespace Asn1

/-! ## Lengths -/

/-- The first bytes of some, of a given number, and the bytes behind them. -/
def split? : Nat → Bytes → Option (Bytes × Bytes)
  | 0, bytes => some ([], bytes)
  | _ + 1, [] => none
  | n + 1, b :: rest => (split? n rest).map fun (front, behind) => (b :: front, behind)

/-- The length at the front of some bytes, none if it is left open: one byte below 128, or the
number of the bytes that make it up and those, behind which there has to be one more. -/
def length? : Bytes → Option (Option Nat × Bytes)
  | [] => none
  | first :: rest =>
    let n := first.toNat
    if n < 128 then some (some n, rest)
    else if n = 128 then some (none, rest)
    else do
      let (digits, behind) ← split? (n - 128) rest
      if behind.isEmpty then none else some (some digits.bigEndian, behind)

/-- What a value starts with. -/
structure Header where
  /-- The tag. -/
  tag : Tag
  /-- Whether the value consists of other values. -/
  nested : Bool
  /-- The length of its content, none if it is left open. -/
  length : Option Nat

/-- The header at the front of some bytes, and the bytes behind it.  Only what consists of other
values can have an open length. -/
def header? (bytes : Bytes) : Option (Header × Bytes) := do
  let (tag, nested, rest) ← Tag.next? bytes
  let (length, rest) ← length? rest
  if length.isNone ∧ !nested then none else return (⟨tag, nested, length⟩, rest)

/-- What follows the last value in a value whose length was left open. -/
def endMark : Bytes := [0, 0]

/-- How many bytes precede the mark that ends the outermost of some values of open length, of which
`depth` are within it; at most `fuel` headers and marks are read. -/
def openLengthUpTo? : Nat → Nat → Bytes → Option Nat
  | 0, _, _ => none
  | fuel + 1, depth, bytes =>
    if endMark.isPrefixOf bytes then
      match depth with
      | 0 => some 0
      | depth + 1 => (openLengthUpTo? fuel depth (bytes.drop 2)).map (· + 2)
    else do
      let (header, rest) ← header? bytes
      let (depth, behind) ←
        match header.length with
        | none => some (depth + 1, rest)
        | some n => (split? n rest).map fun (_, behind) => (depth, behind)
      let read := bytes.length - behind.length
      (openLengthUpTo? fuel depth behind).map (· + read)

/-- How many bytes precede the mark that ends a value of open length.  A header takes two bytes at
least, so that the number of all bytes is fuel enough. -/
def openLength? (bytes : Bytes) : Option Nat := openLengthUpTo? (bytes.length + 1) 0 bytes

/-! ## Values -/

/-- A value and the bytes it was read from. -/
structure Value where
  /-- The tag. -/
  tag : Tag
  /-- Whether it consists of other values. -/
  nested : Bool
  /-- What ends the content: nothing, or the mark of an open length. -/
  ending : Bytes
  /-- The content, without what ends it. -/
  content : Bytes
  /-- All its bytes. -/
  encoded : Bytes

/-- The value at the front of some bytes, and the bytes behind it.  The mark that ends an open
length is no value. -/
def next? (bytes : Bytes) : Option (Value × Bytes) :=
  if endMark.isPrefixOf bytes then none
  else do
    let (header, rest) ← header? bytes
    let (ending, length) ←
      match header.length with
      | some n => some ([], n)
      | none => (openLength? rest).map fun n => (endMark, n)
    let (content, ended) ← split? length rest
    let behind := ended.drop ending.length
    let size := bytes.length - behind.length
    return (⟨header.tag, header.nested, ending, content, bytes.take size⟩, behind)

/-- The values up to an ending that some bytes consist of, at most `fuel` of them. -/
def valuesUpTo? (ending : Bytes) : Nat → Bytes → Option (List Value)
  | 0, bytes => if bytes = ending then some [] else none
  | fuel + 1, bytes =>
    if bytes = ending then some []
    else do
      let (v, rest) ← next? bytes
      let vs ← valuesUpTo? ending fuel rest
      return v :: vs

namespace Value

/-- The values that a value consists of.  Each takes at least two bytes, so that their number is
fuel enough. -/
def values? (v : Value) : Option (List Value) :=
  valuesUpTo? v.ending v.content.length (v.content ++ v.ending)

/-- The values of a list of fixed shape. -/
def items? (v : Value) : Option (List Value) :=
  if v.tag = .sequence ∧ v.nested then v.values? else none

/-- The values of a list or a set, as its tag says, of any length.  Nothing but the tag marks it. -/
def members? (tag : Tag) (v : Value) : Option (List Value) :=
  if v.tag = tag then v.values? else none

/-- The one value within a value that only gives it a tag. -/
def inner? (v : Value) : Option Value :=
  if v.nested then
    match v.values? with
    | some [w] => some w
    | _ => none
  else none

/-- Whether a value only gives a tag to one that is good. -/
def wraps (good : Value → Bool) (v : Value) : Bool := v.inner?.any good

/-! ## Strings -/

/-- The bytes of a string, which may be in parts; the parts may be in parts themselves, at most
`depth` times. -/
def bytesWithin? : Nat → Value → Option Bytes
  | 0, v => if v.nested then none else some v.content
  | depth + 1, v =>
    if v.nested then do
      let parts ← (← v.values?).mapM (bytesWithin? depth)
      return parts.flatten
    else some v.content

/-- How many times the parts of a string may be in parts, the string included. -/
def maxParting : Nat := 6

/-- The bytes of a string, whole or in parts. -/
def bytes? (v : Value) : Option Bytes := v.bytesWithin? maxParting

end Value

/-! ## Optional values -/

/-- Some values without one that may stand at the front, with a tag that its place gives it.  If it
is there, it has to be good. -/
def skip? (place : Nat) (good : Value → Bool) : List Value → Option (List Value)
  | v :: rest =>
    if v.tag = .place place then if good v then some rest else none else some (v :: rest)
  | [] => some []

end Asn1
end WebSso
