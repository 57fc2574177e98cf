import WebSso.Asn1.Value
import WebSso.Time.Instant

/-!
# Times in ASN.1

A time is a text of digits: a year of two or four digits, month, day, hour, minute and second of two
digits each.  The second may be missing, a fraction may follow it behind a year of four digits, and
at the end stands a `Z` or how far the clock is ahead of universal time.

## What is here

* `Value.isTime`, whether a value is a time, readable or not;
* `Value.second?`, the second that a time names.
-/

set_option autoImplicit false
namespace WebSso
namespace Asn1

/-! ## Digits -/

/-- Whether a byte is an ASCII digit. -/
def isDigit (b : UInt8) : Bool := 48 ≤ b && b ≤ 57

/-- Whether a byte is an ASCII character. -/
def isByteOf (c : Char) (b : UInt8) : Bool := b.toNat == c.toNat

/-- The number of two digits at the front of some bytes, in a range, and the rest of the bytes. -/
def pair? (low high : Nat) : Bytes → Option (Nat × Bytes)
  | a :: b :: rest =>
    let n := 10 * (a.toNat - 48) + (b.toNat - 48)
    if isDigit a ∧ isDigit b ∧ low ≤ n ∧ n ≤ high then some (n, rest) else none
  | _ => none

/-! ## The parts of a time -/

/-- A year of two digits, which is one of 1950 to 2049, and the rest of the text. -/
def shortYear? (text : Bytes) : Option (Nat × Bytes) := do
  let (n, rest) ← pair? 0 99 text
  return (if n < 50 then 2000 + n else 1900 + n, rest)

/-- A year of four digits and the rest of the text. -/
def longYear? (text : Bytes) : Option (Nat × Bytes) := do
  let (century, rest) ← pair? 0 99 text
  let (n, rest) ← pair? 0 99 rest
  return (100 * century + n, rest)

/-- Whether a text starts with what ends a time. -/
def startsZone : Bytes → Bool
  | b :: _ => isByteOf 'Z' b || isByteOf '+' b || isByteOf '-' b
  | [] => false

/-- The seconds at the front of a text, none if the time ends there, and the rest of the text. -/
def seconds? (text : Bytes) : Option (Nat × Bytes) :=
  if startsZone text then some (0, text) else pair? 0 59 text

/-- A text without the fraction of a second at its front, which has one digit at least. -/
def dropFraction? : Bytes → Option Bytes
  | dot :: rest =>
    if isByteOf '.' dot then
      let behind := rest.dropWhile isDigit
      if behind.length = rest.length then none else some behind
    else some (dot :: rest)
  | [] => some []

/-- How many seconds the clock of a time is ahead of universal time. -/
def zone? : Bytes → Option Int
  | [z] => if isByteOf 'Z' z then some 0 else none
  | sign :: rest => do
    let (hours, rest) ← pair? 0 12 rest
    let (minutes, rest) ← pair? 0 59 rest
    let ahead : Int := 3600 * hours + 60 * minutes
    if rest ≠ [] then none
    else if isByteOf '+' sign then some ahead
    else if isByteOf '-' sign then some (-ahead)
    else none
  | [] => none

/-! ## Times -/

/-- The first second of 1900, from which on times of other clocks can be told. -/
def firstShifted : Int := -2208988800

/-- The second of universal time at which a clock that is some seconds ahead shows a second. -/
def universal? (shown ahead : Int) : Option Int :=
  let second := shown - ahead
  if ahead ≠ 0 ∧ (second < firstShifted ∨ endShown ≤ second) then none else some second

/-- The second of a text with a year of two or of four digits. -/
def secondOf? (long : Bool) (text : Bytes) : Option Int := do
  let (year, rest) ← if long then longYear? text else shortYear? text
  let (month, rest) ← pair? 1 12 rest
  let (day, rest) ← pair? 1 31 rest
  let (hour, rest) ← pair? 0 23 rest
  let (minute, rest) ← pair? 0 59 rest
  let (second, rest) ← seconds? rest
  let rest ← if long then dropFraction? rest else some rest
  let ahead ← zone? rest
  let dayCount ← Calendar.ofDate? year month day
  universal? (dayCount * secondsPerDay + 3600 * hour + 60 * minute + second) ahead

namespace Value

/-- Whether a value is a time, readable or not. -/
def isTime (v : Value) : Bool :=
  (v.tag == .utcTime || v.tag == .generalizedTime) && v.bytes?.isSome

/-- The second that a time names. -/
def second? (v : Value) : Option Int := do
  let text ← v.bytes?
  if v.tag = .utcTime then secondOf? false text
  else if v.tag = .generalizedTime then secondOf? true text
  else none

end Value
end Asn1
end WebSso
