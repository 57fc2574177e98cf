import WebSso.Codec.Bytes

/-!
# Base64

Three bytes are written as four characters of a 64-letter alphabet; one or two bytes at the end
are written as two or three characters and padded with `=`.

## What is here

* `Base64.encode`, the padded text of some bytes;
* `Base64.decode?`, which accepts that text and nothing else: the padding has to be there, and the
  bits that a last character carries beyond the last byte have to be zero;
* `Base64.decodeText?`, which first drops the blanks and line breaks that documents put between
  the characters.
-/

set_option autoImplicit false
namespace WebSso
namespace Base64

/-! ## The alphabet -/

/-- The character of a number below 64. -/
def digit (n : Nat) : Char :=
  if n < 26 then Char.ofNat (65 + n)
  else if n < 52 then Char.ofNat (71 + n)
  else if n < 62 then Char.ofNat (n - 4)
  else if n = 62 then '+'
  else '/'

/-- The number of a character of the alphabet. -/
def value? (c : Char) : Option Nat :=
  let n := c.toNat
  if 65 ≤ n ∧ n ≤ 90 then some (n - 65)
  else if 97 ≤ n ∧ n ≤ 122 then some (n - 71)
  else if 48 ≤ n ∧ n ≤ 57 then some (n + 4)
  else if n = 43 then some 62
  else if n = 47 then some 63
  else none

/-- What fills up the last group of characters. -/
def padding : Char := '='

/-! ## Writing -/

/-- The text of some bytes behind characters already written, which are kept last first. -/
def encodeOnto (written : List Char) : Bytes → List Char
  | [] => written.reverse
  | [a] =>
    let n := a.toNat
    (padding :: padding :: digit (n % 4 * 16) :: digit (n / 4) :: written).reverse
  | [a, b] =>
    let n := a.toNat * 256 + b.toNat
    (padding :: digit (n % 16 * 4) :: digit (n / 16 % 64) :: digit (n / 1024) :: written).reverse
  | a :: b :: c :: rest =>
    let n := (a.toNat * 256 + b.toNat) * 256 + c.toNat
    encodeOnto
      (digit (n % 64) :: digit (n / 64 % 64) :: digit (n / 4096 % 64) :: digit (n / 262144)
        :: written)
      rest

/-- The padded text of some bytes. -/
def encode (bytes : Bytes) : String := String.ofList (encodeOnto [] bytes)

/-! ## Reading -/

/-- The bytes of a text behind bytes already read, which are kept last first. -/
def decodeOnto (read : Bytes) : List Char → Option Bytes
  | [] => some read.reverse
  | a :: b :: c :: d :: rest =>
    if d = padding then
      if rest ≠ [] then none
      else if c = padding then do
        let x ← value? a
        let y ← value? b
        if y % 16 = 0 then some (UInt8.ofNat (x * 4 + y / 16) :: read).reverse else none
      else do
        let x ← value? a
        let y ← value? b
        let z ← value? c
        if z % 4 = 0 then
          let n := (x * 64 + y) * 16 + z / 4
          some (UInt8.ofNat n :: UInt8.ofNat (n / 256) :: read).reverse
        else none
    else do
      let x ← value? a
      let y ← value? b
      let z ← value? c
      let w ← value? d
      let n := ((x * 64 + y) * 64 + z) * 64 + w
      decodeOnto (UInt8.ofNat n :: UInt8.ofNat (n / 256) :: UInt8.ofNat (n / 65536) :: read) rest
  | _ => none

/-- The bytes that a text is the padded form of. -/
def decode? (text : List Char) : Option Bytes := decodeOnto [] text

/-- The blanks that may stand anywhere in a text: a space, a line feed, a carriage return, a
tab. -/
def isLayout (c : Char) : Bool := c == ' ' || c == '\n' || c == '\r' || c == '\t'

/-- The bytes of a text without regard to its layout. -/
def decodeText? (text : String) : Option Bytes :=
  decode? (text.toList.filter fun c => !isLayout c)

end Base64
end WebSso
