import WebSso.Json.Parse

/-!
# What JSON text is

The grammar of JSON, as a relation between documents and the texts that write them.  It says what
each part of a document may look like and nothing of how it is read, so that a reader can be held
against it: of a text from the front, with no more than the next character to go by, it has to find
the one division into parts that the grammar allows.

Three limits belong to it: how deep values are nested, the range of numbers, and that no half of a
surrogate pair stands alone.

## What is here

* `Json.Spells`, how the characters of a string are written between its quotes;
* `Json.Numeral`, how a number is written;
* `Json.Leaf`, the values that hold no others;
* `Json.Sequence`, parts between commas up to a closing character, which is what lists and objects
  have in common;
* `Json.Value`, the values up to a depth, and `Json.Writes`, the texts of documents.
-/

set_option autoImplicit false
namespace WebSso
namespace Json

/-- White space. -/
def Blank (text : List Char) : Prop := ∀ c ∈ text, isSpace c = true

/-! ## Strings -/

/-- Four hexadecimal digits and the code unit that they write. -/
inductive CodeUnit : List Char → Nat → Prop where
  | digits {a b c d : Char} {i j k l : Nat} (ha : hexValue? a = some i) (hb : hexValue? b = some j)
      (hc : hexValue? c = some k) (hd : hexValue? d = some l) :
      CodeUnit [a, b, c, d] (((i * 16 + j) * 16 + k) * 16 + l)

/-- The first half of a surrogate pair. -/
def IsHighSurrogate (n : Nat) : Prop := 0xD800 ≤ n ∧ n ≤ 0xDBFF

/-- The second half of a surrogate pair. -/
def IsLowSurrogate (n : Nat) : Prop := 0xDC00 ≤ n ∧ n ≤ 0xDFFF

/-- The character of a surrogate pair. -/
def pairChar (high low : Nat) : Char :=
  Char.ofNat (0x10000 + (high - 0xD800) * 0x400 + (low - 0xDC00))

/-- The characters that a backslash and one letter write. -/
def escapes : List (Char × Char) :=
  [('"', '"'), ('\\', '\\'), ('/', '/'), ('b', '\x08'), ('f', '\x0c'), ('n', '\n'), ('r', '\r'),
    ('t', '\t')]

/-- What may follow a backslash, and the character that it writes. -/
inductive Escape : List Char → Char → Prop where
  /-- One letter of the table. -/
  | letter {letter c : Char} (h : (letter, c) ∈ escapes) : Escape [letter] c
  /-- A code unit that is a character by itself. -/
  | unit {digits : List Char} {n : Nat} (h : CodeUnit digits n) (hhigh : ¬ IsHighSurrogate n)
      (hlow : ¬ IsLowSurrogate n) : Escape ('u' :: digits) (Char.ofNat n)
  /-- Two code units that are a character together. -/
  | pair {first second : List Char} {high low : Nat} (hfirst : CodeUnit first high)
      (hsecond : CodeUnit second low) (hhigh : IsHighSurrogate high) (hlow : IsLowSurrogate low) :
      Escape ('u' :: (first ++ '\\' :: 'u' :: second)) (pairChar high low)

/-- How characters are written between quotes. -/
inductive Spells : List Char → List Char → Prop where
  | nil : Spells [] []
  /-- A character that stands for itself. -/
  | plain {text chars : List Char} {c : Char} (hquote : c ≠ '"') (hslash : c ≠ '\\')
      (hcontrol : 32 ≤ c.toNat) (htext : Spells text chars) : Spells (c :: text) (c :: chars)
  /-- A character that is written behind a backslash. -/
  | escape {text chars raw : List Char} {c : Char} (hraw : Escape raw c)
      (htext : Spells text chars) : Spells ('\\' :: (raw ++ text)) (c :: chars)

/-! ## Numbers -/

/-- At least one digit and nothing else. -/
def Digits (text : List Char) : Prop := text ≠ [] ∧ ∀ c ∈ text, isDigit c = true

/-- The digits before a point: a zero stands alone. -/
def Whole (text : List Char) : Prop := Digits text ∧ (text.head? = some '0' → text = ['0'])

/-- The digits behind the point and how they are written. -/
inductive Fraction : List Char → List Char → Prop where
  | none : Fraction [] []
  | point {digits : List Char} (h : Digits digits) : Fraction digits ('.' :: digits)

/-- The sign of an exponent, which may be left out if it is a plus. -/
inductive ExponentSign : Bool → List Char → Prop where
  | none : ExponentSign false []
  | plus : ExponentSign false ['+']
  | minus : ExponentSign true ['-']

/-- An exponent and how it is written. -/
inductive Exponent : Option (Bool × List Char) → List Char → Prop where
  | none : Exponent none []
  | letter {letter : Char} {negative : Bool} {sign digits : List Char}
      (hletter : letter = 'e' ∨ letter = 'E') (hsign : ExponentSign negative sign)
      (h : Digits digits) : Exponent (some (negative, digits)) (letter :: (sign ++ digits))

/-- How a number behind its sign is written. -/
def Unsigned (t : NumberText) (text : List Char) : Prop :=
  ∃ fraction exponent, Whole t.whole ∧ Fraction t.fraction fraction ∧
    Exponent t.exponent exponent ∧ text = t.whole ++ (fraction ++ exponent)

/-- How a number is written. -/
inductive Numeral : NumberText → List Char → Prop where
  | plain {t : NumberText} {text : List Char} (hsign : t.negative = false) (h : Unsigned t text) :
      Numeral t text
  | minus {t : NumberText} {text : List Char} (hsign : t.negative = true) (h : Unsigned t text) :
      Numeral t ('-' :: text)

/-! ## Values -/

/-- A value that holds no others and how it is written. -/
inductive Leaf : Document → List Char → Prop where
  | null : Leaf .null ['n', 'u', 'l', 'l']
  | yes : Leaf (.bool true) ['t', 'r', 'u', 'e']
  | no : Leaf (.bool false) ['f', 'a', 'l', 's', 'e']
  | string {s : String} {text : List Char} (h : Spells text s.toList) :
      Leaf (.string s) ('"' :: (text ++ ['"']))
  /-- A number within range. -/
  | number {t : NumberText} {text : List Char} {n : Number} (h : Numeral t text)
      (hn : t.number? = some n) : Leaf (.number n) text

section
variable {α : Type} (part : α → List Char → Prop) (close : Char)

/-- How a part is written with white space before it. -/
def Spaced (a : α) (text : List Char) : Prop :=
  ∃ space core, Blank space ∧ part a core ∧ text = space ++ core

/-- How parts are written that follow another one, up to the closing character. -/
inductive Tail : List α → List Char → Prop where
  | close {space : List Char} (hspace : Blank space) : Tail [] (space ++ [close])
  | comma {space text tail : List Char} {a : α} {as : List α} (hspace : Blank space)
      (ha : part a text) (has : Tail as tail) : Tail (a :: as) (space ++ ',' :: (text ++ tail))

/-- How parts are written up to the closing character. -/
inductive Sequence : List α → List Char → Prop where
  | empty {space : List Char} (hspace : Blank space) : Sequence [] (space ++ [close])
  | first {text tail : List Char} {a : α} {as : List α} (ha : part a text)
      (has : Tail part close as tail) : Sequence (a :: as) (text ++ tail)

end

/-- How a member of an object is written, from the quote before its name. -/
inductive Member (value : Document → List Char → Prop) : String × Document → List Char → Prop where
  | colon {name : String} {d : Document} {raw space text : List Char}
      (hname : Spells raw name.toList) (hspace : Blank space) (hvalue : value d text) :
      Member value (name, d) ('"' :: (raw ++ '"' :: (space ++ ':' :: text)))

/-- A value and how it is written, if it is known how the values that it holds are. -/
inductive Level (value : Document → List Char → Prop) : Document → List Char → Prop where
  | leaf {d : Document} {text : List Char} (h : Leaf d text) : Level value d text
  | array {items : List Document} {text : List Char} (h : Sequence value ']' items text) :
      Level value (.array items) ('[' :: text)
  | object {members : List (String × Document)} {text : List Char}
      (h : Sequence (Spaced (Member value)) '\x7d' members text) :
      Level value (.object members) ('\x7b' :: text)

/-- How a value is written in which lists and objects are nested to a depth, with white space
before it. -/
def Value : Nat → Document → List Char → Prop
  | 0 => Spaced Leaf
  | depth + 1 => Spaced (Level (Value depth))

/-- The texts of a document: a value that is not nested too deep, between white space. -/
def Writes (d : Document) (text : List Char) : Prop :=
  ∃ value space, Value maxDepth d value ∧ Blank space ∧ text = value ++ space

end Json
end WebSso
