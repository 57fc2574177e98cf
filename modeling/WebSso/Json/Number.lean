import WebSso.Arithmetic

/-!
# Numbers in JSON

A number is read as 64 bits of digits and a power of ten, and is taken as a double unless it is a
whole number that 64 bits hold.  Digits that do not fit are dropped, and the product is rounded
once more than it need be; so near the end of the range of doubles it is these roundings that say
whether a number is within it.

## What is here

* `Json.Number`, what a reader can tell of a number;
* `Json.NumberText`, the parts of a written number, and `NumberText.number?`, what it amounts to if
  it is within range;
* `Json.roundToDouble`, the nearest whole number that a double can hold.
-/

set_option autoImplicit false
namespace WebSso
namespace Json

/-- A number, told apart as far as an unsigned field needs it. -/
inductive Number where
  /-- A whole number below 2^64, written without a sign, a point or an exponent. -/
  | natural (n : Nat)
  /-- A whole number below zero that 64 bits can hold. -/
  | negative
  /-- Any other number. -/
  | fractional
  deriving DecidableEq

/-! ## Digits -/

/-- Whether a character is an ASCII digit. -/
def isDigit (c : Char) : Bool := 48 ≤ c.toNat && c.toNat ≤ 57

/-- The value of a digit. -/
def digitValue (c : Char) : Nat := c.toNat - 48

/-- The number that digits write. -/
def digitsValue (digits : List Char) : Nat :=
  digits.foldl (fun n c => 10 * n + digitValue c) 0

/-- A number with digits added at its end, as long as it stays below 2^64, and the digits that are
left. -/
def pushDigits : Nat → List Char → Nat × List Char
  | n, [] => (n, [])
  | n, c :: rest =>
    if 10 * n + digitValue c < 2 ^ 64 then pushDigits (10 * n + digitValue c) rest
    else (n, c :: rest)

/-! ## Doubles -/

/-- The nearest whole number with at most 53 binary digits before the zeros at its end; of two, the
one whose last such digit is even. -/
def roundToDouble (n : Nat) : Nat :=
  if n < 2 ^ 53 then n
  else
    let unit := 2 ^ (n.log2 - 52)
    let below := n / unit
    let twice := 2 * (n % unit)
    if unit < twice ∨ (twice = unit ∧ below % 2 = 1) then (below + 1) * unit else below * unit

/-- The least number that is rounded past the doubles. -/
def doubleEnd : Nat := 2 ^ 1024 - 2 ^ 970

/-- The greatest power of ten among the doubles. -/
def maxPower : Nat := 308

/-- Whether a significand times a power of ten is within the range of doubles, when both are taken
as doubles first. -/
def isInRange (significand : Nat) (exponent : Int) : Bool :=
  significand == 0 || exponent < 0
    || (exponent ≤ maxPower
      && roundToDouble significand * roundToDouble (10 ^ exponent.toNat) < doubleEnd)

/-! ## Written numbers -/

/-- The parts of a written number. -/
structure NumberText where
  /-- Whether it has a minus sign. -/
  negative : Bool
  /-- The digits before the point. -/
  whole : List Char
  /-- The digits behind the point; none if there is no point. -/
  fraction : List Char
  /-- The exponent: whether it has a minus sign, and its digits. -/
  exponent : Option (Bool × List Char)

namespace NumberText

/-- The greatest exponent that is looked at for its value. -/
def maxExponent : Nat := 2 ^ 31 - 1

/-- The significand and the power of ten that the digits make up.  Of the digits before the point,
those that do not fit count for the power; of those behind it, those that fit do. -/
def scaled (t : NumberText) : Nat × Int :=
  let (significand, dropped) := pushDigits 0 t.whole
  let (significand, ignored) := pushDigits significand t.fraction
  (significand, (dropped.length : Int) - (t.fraction.length - ignored.length : Nat))

/-- Whether the number is within range. -/
def isInRange (t : NumberText) : Bool :=
  let (significand, power) := t.scaled
  match t.exponent with
  | none => Json.isInRange significand power
  | some (negative, digits) =>
    let n := digitsValue digits
    if maxExponent < n then negative || significand == 0
    else Json.isInRange significand (if negative then power - n else power + n)

/-- Whether the number is written as a whole number. -/
def isWhole (t : NumberText) : Bool := t.fraction.isEmpty && t.exponent.isNone

/-- What the number amounts to, if it is within range. -/
def number? (t : NumberText) : Option Number :=
  if !t.isInRange then none
  else if !t.isWhole then some .fractional
  else
    let n := digitsValue t.whole
    if t.negative then some (if 0 < n ∧ n ≤ 2 ^ 63 then .negative else .fractional)
    else some (if n < 2 ^ 64 then .natural n else .fractional)

end NumberText
end Json
end WebSso
