/-!
# Blank text

Which characters count as white space, and which text is blank: the property `White_Space` of
Unicode.

## What is here

* `isBlank`, the characters with the property;
* `isBlankText`, text that has no other character, the empty text included;
* `words`, what stands between the blank characters of a text.
-/

set_option autoImplicit false
namespace WebSso

/-- The characters with the property `White_Space`. -/
def isBlank (c : Char) : Bool :=
  let n := c.toNat
  (9 ≤ n && n ≤ 13) || n == 32 || n == 0x85 || n == 0xA0 || n == 0x1680
    || (0x2000 ≤ n && n ≤ 0x200A) || n == 0x2028 || n == 0x2029 || n == 0x202F || n == 0x205F
    || n == 0x3000

/-- Text in which nothing is left when white space is dropped at its ends. -/
def isBlankText (s : String) : Bool := s.toList.all isBlank

/-- The longest pieces of a text without blank characters, first to last. -/
def words (s : String) : List String :=
  let runs := s.toList.splitBy fun a b => isBlank a == isBlank b
  (runs.filter fun run => !run.all isBlank).map String.ofList

end WebSso
