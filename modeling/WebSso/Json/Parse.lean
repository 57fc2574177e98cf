import WebSso.Json.Document

/-!
# From text to documents

The grammar of JSON, read once from the front.

## What is here

* `Json.parse?`, the document of a text, if the text is JSON from its first character to its last;
* the parts of the grammar: `skipSpace`, `scanString?`, `scanNumber?`, and the mutual
  `scanValue?`, `scanItems?` and `scanMembers?`.

Lists and objects may be nested to a depth of 127.  Numbers have to be within the range of double
precision.  A text may name any character but a lone surrogate.

Every scanner gives what it read and the text behind it.
-/

set_option autoImplicit false
namespace WebSso
namespace Json

/-! ## White space and words -/

/-- The white space of JSON: a space, a line feed, a tab, a carriage return. -/
def isSpace (c : Char) : Bool := c == ' ' || c == '\n' || c == '\t' || c == '\r'

/-- The text after the white space at its front. -/
def skipSpace (text : List Char) : List Char := text.dropWhile isSpace

/-- The text after a word, if it starts with the word. -/
def skipWord? : List Char → List Char → Option (List Char)
  | [], text => some text
  | w :: word, c :: text => if c = w then skipWord? word text else none
  | _ :: _, [] => none

/-- The document of a word whose rest is given, if the text goes on with that rest. -/
def scanWord? (word : List Char) (value : Document) (text : List Char) :
    Option (Document × List Char) :=
  (skipWord? word text).map fun rest => (value, rest)

/-! ## Strings -/

/-- The value of a hexadecimal digit of either case. -/
def hexValue? (c : Char) : Option Nat :=
  let n := c.toNat
  if 48 ≤ n ∧ n ≤ 57 then some (n - 48)
  else if 97 ≤ n ∧ n ≤ 102 then some (n - 87)
  else if 65 ≤ n ∧ n ≤ 70 then some (n - 55)
  else none

/-- A code unit of four hexadecimal digits and the text behind it. -/
def scanUnit? : List Char → Option (Nat × List Char)
  | a :: b :: c :: d :: rest => do
    let a ← hexValue? a
    let b ← hexValue? b
    let c ← hexValue? c
    let d ← hexValue? d
    return (((a * 16 + b) * 16 + c) * 16 + d, rest)
  | _ => none

/-- The character of an escape after `\u`: one code unit, or two that form a surrogate pair. -/
def scanEscapedUnit? (text : List Char) : Option (Char × List Char) := do
  let (first, rest) ← scanUnit? text
  if 0xDC00 ≤ first ∧ first ≤ 0xDFFF then none
  else if first < 0xD800 ∨ 0xDBFF < first then return (Char.ofNat first, rest)
  else
    match rest with
    | '\\' :: 'u' :: rest =>
      let (second, rest) ← scanUnit? rest
      if second < 0xDC00 ∨ 0xDFFF < second then none
      else return (Char.ofNat (0x10000 + (first - 0xD800) * 0x400 + (second - 0xDC00)), rest)
    | _ => none

/-- The character of an escape after the backslash. -/
def scanEscape? : List Char → Option (Char × List Char)
  | '"' :: rest => some ('"', rest)
  | '\\' :: rest => some ('\\', rest)
  | '/' :: rest => some ('/', rest)
  | 'b' :: rest => some ('\x08', rest)
  | 'f' :: rest => some ('\x0c', rest)
  | 'n' :: rest => some ('\n', rest)
  | 'r' :: rest => some ('\r', rest)
  | 't' :: rest => some ('\t', rest)
  | 'u' :: rest => scanEscapedUnit? rest
  | _ => none

/-- The rest of a string up to its closing quote, behind characters already read, which are kept
last first.  Every step takes a character, so that the length of the text is fuel enough. -/
def scanStringOnto : Nat → List Char → List Char → Option (String × List Char)
  | 0, _, _ => none
  | _ + 1, _, [] => none
  | fuel + 1, read, c :: rest =>
    if c = '"' then some (String.ofList read.reverse, rest)
    else if c = '\\' then
      match scanEscape? rest with
      | some (escaped, rest) => scanStringOnto fuel (escaped :: read) rest
      | none => none
    else if c.toNat < 32 then none
    else scanStringOnto fuel (c :: read) rest

/-- The rest of a string up to its closing quote. -/
def scanString? (text : List Char) : Option (String × List Char) :=
  scanStringOnto text.length [] text

/-! ## Numbers -/

/-- The digits at the front of a text, of which there is at least one, and what follows them. -/
def scanDigits? (text : List Char) : Option (List Char × List Char) :=
  match text.span isDigit with
  | ([], _) => none
  | (digits, rest) => some (digits, rest)

/-- The digits of a whole part: a zero stands alone. -/
def scanWhole? : List Char → Option (List Char × List Char)
  | '0' :: c :: rest => if isDigit c then none else some (['0'], c :: rest)
  | text => scanDigits? text

/-- The digits after a point, and what follows them; none if there is no point. -/
def scanFraction? : List Char → Option (List Char × List Char)
  | '.' :: rest => scanDigits? rest
  | text => some ([], text)

/-- An exponent, whether it has a minus sign and its digits, and what follows it; none if there is
no letter `e`. -/
def scanExponent? : List Char → Option (Option (Bool × List Char) × List Char)
  | c :: rest =>
    if c = 'e' ∨ c = 'E' then
      let (negative, rest) : Bool × List Char :=
        match rest with
        | '+' :: rest => (false, rest)
        | '-' :: rest => (true, rest)
        | rest => (false, rest)
      (scanDigits? rest).map fun (digits, rest) => (some (negative, digits), rest)
    else some (none, c :: rest)
  | [] => some (none, [])

/-- A number after its sign. -/
def scanNumber? (negative : Bool) (text : List Char) : Option (Number × List Char) := do
  let (whole, text) ← scanWhole? text
  let (fraction, text) ← scanFraction? text
  let (exponent, text) ← scanExponent? text
  let number ← NumberText.number? ⟨negative, whole, fraction, exponent⟩
  return (number, text)

/-- A value made of what was scanned. -/
def leaf? {α : Type} (make : α → Document) (scanned : Option (α × List Char)) :
    Option (Document × List Char) :=
  scanned.map fun (a, rest) => (make a, rest)

/-! ## Values -/

/-- How deep lists and objects may be nested. -/
def maxDepth : Nat := 127

mutual

/-- A value after white space.  `depth` is how deep lists and objects may still be nested. -/
def scanValue? : Nat → Nat → List Char → Option (Document × List Char)
  | 0, _, _ => none
  | fuel + 1, depth, text =>
    match skipSpace text with
    | 'n' :: rest => scanWord? ['u', 'l', 'l'] .null rest
    | 't' :: rest => scanWord? ['r', 'u', 'e'] (.bool true) rest
    | 'f' :: rest => scanWord? ['a', 'l', 's', 'e'] (.bool false) rest
    | '"' :: rest => leaf? .string (scanString? rest)
    | '-' :: rest => leaf? .number (scanNumber? true rest)
    | '[' :: rest => if depth = 0 then none else scanItems? fuel (depth - 1) [] rest
    | '\x7b' :: rest => if depth = 0 then none else scanMembers? fuel (depth - 1) [] rest
    | c :: rest => if isDigit c then leaf? .number (scanNumber? false (c :: rest)) else none
    | [] => none

/-- The items of a list up to its bracket, behind items already read, which are kept last first. -/
def scanItems? : Nat → Nat → List Document → List Char → Option (Document × List Char)
  | 0, _, _, _ => none
  | fuel + 1, depth, read, text =>
    let next (text : List Char) : Option (Document × List Char) :=
      match scanValue? fuel depth text with
      | some (item, rest) => scanItems? fuel depth (item :: read) rest
      | none => none
    match skipSpace text with
    | ']' :: rest => some (.array read.reverse, rest)
    | ',' :: rest =>
      if read.isEmpty then none
      else
        match skipSpace rest with
        | ']' :: _ => none
        | _ => next rest
    | _ => if read.isEmpty then next text else none

/-- The members of an object up to its brace, behind members already read, which are kept last
first. -/
def scanMembers? :
    Nat → Nat → List (String × Document) → List Char → Option (Document × List Char)
  | 0, _, _, _ => none
  | fuel + 1, depth, read, text =>
    let next (text : List Char) : Option (Document × List Char) :=
      match skipSpace text with
      | '"' :: rest =>
        match scanString? rest with
        | none => none
        | some (name, rest) =>
          match skipSpace rest with
          | ':' :: rest =>
            match scanValue? fuel depth rest with
            | some (value, rest) => scanMembers? fuel depth ((name, value) :: read) rest
            | none => none
          | _ => none
      | _ => none
    match skipSpace text with
    | '\x7d' :: rest => some (.object read.reverse, rest)
    | ',' :: rest => if read.isEmpty then none else next rest
    | _ => if read.isEmpty then next text else none

end

/-- The document of a text, behind which only white space may follow.  Every step of a list or an
object takes a character, so that twice the length of the text is fuel enough. -/
def parse? (text : String) : Option Document :=
  let chars := text.toList
  match scanValue? (2 * chars.length + 2) maxDepth chars with
  | some (root, rest) => if (skipSpace rest).isEmpty then some root else none
  | none => none

end Json
end WebSso
