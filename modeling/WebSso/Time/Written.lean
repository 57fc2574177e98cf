import WebSso.Stop

/-!
# Instants on the wire

Documents carry instants as text.  They are written in one form only, to the second and at UTC,
and are read in every form that ISO 8601 gives an instant.

## What is here

* `Instant.write`, the text `2030-01-01T12:00:00Z`, for a year of four digits;
* `Instant.read?`, which accepts calendar, ordinal and week dates, the basic form (no separators)
  and the extended form, a decimal part on the last part of the time, and requires an offset;
* `Instant.readAssertionInstant`, the same with the fault of an assertion.
-/

set_option autoImplicit false
namespace WebSso

/-! ## Digits -/

/-- The character of a digit from 0 to 9. -/
def digitChar (n : Nat) : Char := Char.ofNat (48 + n % 10)

/-- The last `width` decimal digits of a number, zeros in front. -/
def paddedDigits : Nat → Nat → List Char
  | 0, _ => []
  | width + 1, n => paddedDigits width (n / 10) ++ [digitChar n]

/-- The value of an ASCII digit. -/
def digitValue? (c : Char) : Option Nat :=
  if 48 ≤ c.toNat && c.toNat ≤ 57 then some (c.toNat - 48) else none

/-- The number written by the first `width` characters, which must all be digits, and the rest. -/
def takeDigits? : Nat → Nat → List Char → Option (Nat × List Char)
  | 0, value, rest => some (value, rest)
  | _ + 1, _, [] => none
  | width + 1, value, c :: rest =>
      match digitValue? c with
      | some d => takeDigits? width (10 * value + d) rest
      | none => none

namespace Instant

/-! ## Writing -/

/-- The text of a date and the second of its day: every field has a fixed width. -/
def writeFields (d : Calendar.Date) (secondOfDay : Nat) : List Char :=
  paddedDigits 4 d.year.toNat ++ ['-'] ++ paddedDigits 2 d.month ++ ['-'] ++ paddedDigits 2 d.day
    ++ ['T'] ++ paddedDigits 2 (secondOfDay / 3600) ++ [':']
    ++ paddedDigits 2 (secondOfDay / 60 % 60) ++ [':'] ++ paddedDigits 2 (secondOfDay % 60) ++ ['Z']

/-- What is said of a year that does not have four digits. -/
def unwritableYear : Fault :=
  .serialization "The year component cannot be formatted into the requested format."

/-- The date at UTC. -/
def utcDate (t : Instant) : Calendar.Date := Calendar.date (t.unixSeconds / secondsPerDay)

/-- The text of an instant, to the second and at UTC.  A year outside 0 to 9999 is refused; an
instant that cannot be shown at UTC is out of range. -/
def write (t : Instant) : Attempt String := do
  let u ← Stop.inRange t.toUtc?
  let d := u.utcDate
  if 0 ≤ d.year ∧ d.year ≤ 9999 then
    return String.ofList (writeFields d (u.unixSeconds % secondsPerDay).toNat)
  else Stop.refuse unwritableYear

/-! ## Reading -/

/-- The two forms of the standard: with separators between the fields, or without. -/
inductive Form where
  | basic
  | extended
  deriving DecidableEq

/-- The text after a character, if it starts with it. -/
def skip? (c : Char) : List Char → Option (List Char)
  | x :: rest => if x = c then some rest else none
  | [] => none

/-- A separator, which stands in the extended form and in no other. -/
def separator? (form : Form) (c : Char) (text : List Char) : Option (List Char) :=
  match form with
  | .basic => some text
  | .extended => skip? c text

/-- A year: four digits, or a sign and six digits. -/
def readYear? : List Char → Option (Int × List Char)
  | '+' :: rest => (takeDigits? 6 0 rest).map fun (n, rest) => ((n : Int), rest)
  | '-' :: rest => (takeDigits? 6 0 rest).map fun (n, rest) => (-(n : Int), rest)
  | text => (takeDigits? 4 0 text).map fun (n, rest) => ((n : Int), rest)

/-- A month of two digits from 1 to 12 and a day of two digits other than 0. -/
def readMonthDay? (form : Form) (text : List Char) : Option ((Nat × Nat) × List Char) := do
  let (month, text) ← takeDigits? 2 0 text
  if month = 0 ∨ 12 < month then none
  let text ← separator? form '-' text
  let (day, text) ← takeDigits? 2 0 text
  if day = 0 then none
  return ((month, day), text)

/-- The place of a day in its year, three digits other than 0. -/
def readOrdinal? (text : List Char) : Option (Nat × List Char) := do
  let (ordinal, text) ← takeDigits? 3 0 text
  if ordinal = 0 then none
  return (ordinal, text)

/-- The letter `W`, a week of two digits and a day of the week of one digit. -/
def readWeekDay? (form : Form) (text : List Char) : Option ((Nat × Nat) × List Char) := do
  let text ← skip? 'W' text
  let (week, text) ← takeDigits? 2 0 text
  let text ← separator? form '-' text
  let (day, text) ← takeDigits? 1 0 text
  return ((week, day), text)

/-- The day a date names.  A month and day, a place in the year and a week are tried in this
order, and the first that can be read decides. -/
def readDay? (year : Int) (form : Form) (text : List Char) : Option (Option Int × List Char) :=
  match readMonthDay? form text with
  | some ((month, day), rest) => some (Calendar.ofDate? year month day, rest)
  | none =>
    match readOrdinal? text with
    | some (ordinal, rest) => some (Calendar.ofOrdinal? year ordinal, rest)
    | none =>
      match readWeekDay? form text with
      | some ((week, day), rest) => some (Calendar.ofWeek? year week day, rest)
      | none => none

/-- A date of a year from -9999 to 9999, with the form it is written in: a hyphen after the year
makes it the extended form. -/
def readDate? (text : List Char) : Option (Int × Form × List Char) := do
  let (year, text) ← readYear? text
  let (form, text) :=
    match skip? '-' text with
    | some rest => (Form.extended, rest)
    | none => (Form.basic, text)
  let (day, text) ← readDay? year form text
  let day ← day
  if year < -9999 ∨ 9999 < year then none
  return (day, form, text)

/-- The digits of a decimal part, of which there is at least one. -/
def readFraction? (text : List Char) : Option (List Nat × List Char) :=
  match text.span fun c => (digitValue? c).isSome with
  | ([], _) => none
  | (digits, rest) => some (digits.filterMap digitValue?, rest)

/-- The binary value of a decimal part: the digits are added from the left, each divided by its
power of ten. -/
def fractionValue (digits : List Nat) : Float :=
  match digits with
  | [] => 0.0
  | d :: rest =>
    (rest.foldl
      (fun (acc : Float × Float) digit =>
        let divisor := acc.2 * 10.0
        (acc.1 + digit.toFloat / divisor, divisor))
      (d.toFloat / 10.0, 10.0)).1

/-- A field of the time: two digits and, after a point or a comma, a decimal part. -/
def readField? (text : List Char) : Option ((Nat × Option Float) × List Char) := do
  let (whole, text) ← takeDigits? 2 0 text
  match text with
  | '.' :: rest | ',' :: rest =>
    let (digits, rest) ← readFraction? rest
    return ((whole, some (fractionValue digits)), rest)
  | _ => return ((whole, none), text)

/-- The clock of a text: a second of 60 stands for the last nanosecond before it. -/
structure Clock where
  /-- The hour, 0 to 23. -/
  hour : Nat
  /-- The minute, 0 to 59. -/
  minute : Nat
  /-- The second, 0 to 60. -/
  second : Nat
  /-- The nanoseconds of the second. -/
  nanos : Nat

/-- A clock whose fields are all in their range. -/
def Clock.check? (c : Clock) : Option Clock :=
  if c.hour ≤ 23 ∧ c.minute ≤ 59 ∧ c.second ≤ 60 ∧ c.nanos ≤ 999999999 then some c else none

/-- The clock of an hour with a decimal part. -/
def clockOfHour (hour : Nat) (fraction : Float) : Clock where
  hour := hour
  minute := (fraction * 60.0).toUInt64.toNat
  second := (fraction * 3600.0).toUInt64.toNat % 60
  nanos := (fraction * 3600000000000.0).toUInt64.toNat % 1000000000

/-- The clock of a minute with a decimal part. -/
def clockOfMinute (hour minute : Nat) (fraction : Float) : Clock where
  hour := hour
  minute := minute
  second := (fraction * 60.0).toUInt64.toNat
  nanos := (fraction * 60000000000.0).toUInt64.toNat % 1000000000

/-- The nanoseconds of the decimal part of a second, rounded to nearest. -/
def secondNanos : Option Float → Nat
  | none => 0
  | some fraction => (fraction * 1000000000.0).round.toUInt64.toNat

/-- The second of a time, after its hour and minute.  It may be left out; in the extended form a
colon promises it. -/
def readSecond? (form : Form) (hour minute : Nat) (text : List Char) :
    Option (Clock × List Char) :=
  let finish (promised : Bool) (text : List Char) : Option (Clock × List Char) :=
    match readField? text with
    | some ((second, fraction), rest) => some (⟨hour, minute, second, secondNanos fraction⟩, rest)
    | none => if promised then none else some (⟨hour, minute, 0, 0⟩, text)
  match form with
  | .basic => finish false text
  | .extended =>
    match skip? ':' text with
    | some rest => finish true rest
    | none => some (⟨hour, minute, 0, 0⟩, text)

/-- The time of day, in the form of its date.  The extended form needs a minute, but not the colon
before it. -/
def readClock? (form : Form) (text : List Char) : Option (Clock × List Char) := do
  let ((hour, fraction), text) ← readField? text
  match fraction with
  | some f => return (clockOfHour hour f, text)
  | none =>
    let text ←
      match skip? ':' text with
      | some rest => if form = .extended then some rest else none
      | none => some text
    match readField? text with
    | some ((minute, some f), rest) => return (clockOfMinute hour minute f, rest)
    | some ((minute, none), rest) => readSecond? form hour minute rest
    | none => if form = .extended then none else return (⟨hour, 0, 0, 0⟩, text)

/-- The offset of a time in seconds: `Z`, or a sign, an hour of two digits up to 25 and, if there
is more, a minute of two digits.  Only the extended form has a colon between them. -/
def readOffset? (form : Form) : List Char → Option (Int × List Char)
  | 'Z' :: rest => some (0, rest)
  | c :: rest =>
    if c = '+' ∨ c = '-' then do
      let (hour, rest) ← takeDigits? 2 0 rest
      let rest :=
        match form with
        | .basic => rest
        | .extended => (skip? ':' rest).getD rest
      let (minute, rest) := (takeDigits? 2 0 rest).getD (0, rest)
      if 25 < hour ∨ 59 < minute then none
      let seconds : Int := 3600 * hour + 60 * minute
      return (if c = '-' then -seconds else seconds, rest)
    else none
  | [] => none

/-- Whether a day is the last of its month. -/
def isMonthEnd (day : Int) : Bool :=
  let d := Calendar.date day
  d.day == Calendar.monthLength d.year d.month

/-- Whether a second is the last of a month at UTC, and of a year that can be shown there. -/
def isMonthEndSecond (utc : Int) : Bool :=
  utc % secondsPerDay == 86399 && isMonthEnd (utc / secondsPerDay)
    && firstShown ≤ utc && utc < endShown

/-- The instant of a day, a clock and an offset.  A second of 60 is a leap second: it is taken only
at the end of the last day of a month at UTC, and stands for the nanosecond before it. -/
def ofClock? (day : Int) (clock : Clock) (offset : Int) : Option Instant :=
  let leap := clock.second = 60
  let second := if leap then 59 else clock.second
  let nanos := if leap then 999999999 else clock.nanos
  let utc := day * secondsPerDay + 3600 * clock.hour + 60 * clock.minute + second - offset
  if leap ∧ !isMonthEndSecond utc then none
  else ofNanoseconds? (utc * nanosPerSecond + nanos) offset

/-- The instant that a text names, all of it. -/
def read? (text : String) : Option Instant := do
  let (day, form, rest) ← readDate? text.toList
  let rest ← skip? 'T' rest
  let (clock, rest) ← readClock? form rest
  let clock ← clock.check?
  let (offset, rest) ← readOffset? form rest
  if rest.isEmpty then ofClock? day clock offset else none

/-- The instant that a field of an assertion names. -/
def readAssertionInstant (text : String) : Except Fault Instant :=
  match read? text with
  | some t => .ok t
  | none => .error (.invalidAssertion ("instant " ++ text ++ ":"))

end Instant
end WebSso
