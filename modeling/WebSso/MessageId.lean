/-!
# IDs of messages

Messages, assertions and sessions get an ID that nobody can guess: 128 random bits in hexadecimal
digits behind an underscore, since an ID in XML must not begin with a digit.

## What is here

* `Draw`, the random bits of an ID, and `messageId`, the ID of a draw;
* `isMessageId`, the form that every such ID has.
-/

set_option autoImplicit false
namespace WebSso

/-- The random bits of an ID. -/
abbrev Draw := BitVec 128

/-- The last `width` hexadecimal digits of a number, zeros in front. -/
def hexDigits : Nat → Nat → List Char
  | 0, _ => []
  | width + 1, n => hexDigits width (n / 16) ++ [Nat.digitChar (n % 16)]

/-- The ID of a draw. -/
def messageId (draw : Draw) : String := String.ofList ('_' :: hexDigits 32 draw.toNat)

/-- Whether a text has the form of such an ID. -/
def isMessageId (text : String) : Bool :=
  match text.toList with
  | '_' :: digits =>
    digits.length == 32 && digits.all fun c => c.isDigit || ('a' ≤ c && c ≤ 'f')
  | _ => false

end WebSso
