/-!
# What an XML processor reports

Whoever receives a document reads it with an XML processor, and what the document says is what the
processor reports of it: where elements begin, with their attributes, the character data in between,
and where they end.  What it reports is not always what was written.  Line ends become line feeds
before anything else is looked at, references become the characters they stand for, and white space
in the value of an attribute becomes a blank unless it was written as a reference.

Documents are considered without what no element is written with: declarations, document types,
comments, processing instructions and sections of character data.

## What is here

* `isXmlChar` and `isName`, the characters and the names that a document may have;
* `normalizeLineEnds`, the first thing that is done to a document;
* `Item` and `Item.read`, the characters of a document once its references are resolved;
* `Report`, what is reported, and `step` and `run`, a document read item by item;
* `report`, what is reported of a document, if it is one.
-/

set_option autoImplicit false
namespace WebSso
namespace XmlProcessor

/-! ## Characters and names -/

/-- Whether a character lies in one of some ranges. -/
def inRanges (ranges : List (Nat × Nat)) (c : Char) : Bool :=
  ranges.any fun (low, high) => low ≤ c.toNat && c.toNat ≤ high

/-- The characters that a document may have. -/
def isXmlChar (c : Char) : Bool :=
  inRanges [(0x9, 0xA), (0xD, 0xD), (0x20, 0xD7FF), (0xE000, 0xFFFD), (0x10000, 0x10FFFF)] c

/-- The characters that a name may begin with. -/
def nameStartRanges : List (Nat × Nat) :=
  [(0x3A, 0x3A), (0x41, 0x5A), (0x5F, 0x5F), (0x61, 0x7A), (0xC0, 0xD6), (0xD8, 0xF6),
    (0xF8, 0x2FF), (0x370, 0x37D), (0x37F, 0x1FFF), (0x200C, 0x200D), (0x2070, 0x218F),
    (0x2C00, 0x2FEF), (0x3001, 0xD7FF), (0xF900, 0xFDCF), (0xFDF0, 0xFFFD), (0x10000, 0xEFFFF)]

/-- The characters that a name may go on with. -/
def nameRanges : List (Nat × Nat) :=
  nameStartRanges ++ [(0x2D, 0x2E), (0x30, 0x39), (0xB7, 0xB7), (0x300, 0x36F), (0x203F, 0x2040)]

/-- Whether some characters are a name. -/
def isName : List Char → Bool
  | [] => false
  | c :: rest => inRanges nameStartRanges c && rest.all (inRanges nameRanges)

/-- White space. -/
def isSpace (c : Char) : Bool := c == ' ' || c == '\t' || c == '\n' || c == '\r'

/-! ## Line ends -/

/-- The text of a document with every line end as a line feed: a carriage return with a line feed
behind it, and a carriage return alone. -/
def normalizeLineEnds : List Char → List Char
  | [] => []
  | '\r' :: '\n' :: rest => '\n' :: normalizeLineEnds rest
  | '\r' :: rest => '\n' :: normalizeLineEnds rest
  | c :: rest => c :: normalizeLineEnds rest

/-! ## References -/

/-- A character of a document, as it stands there or as it is referred to. -/
inductive Item where
  /-- The character itself. -/
  | literal (c : Char)
  /-- A reference to it. -/
  | referenced (c : Char)
  deriving DecidableEq

/-- The value of a digit. -/
def digitValue? (base : Nat) (c : Char) : Option Nat :=
  let n := c.toNat
  let value :=
    if 48 ≤ n ∧ n ≤ 57 then n - 48
    else if 65 ≤ n ∧ n ≤ 70 then n - 55
    else if 97 ≤ n ∧ n ≤ 102 then n - 87
    else base
  if value < base then some value else none

/-- The character of a number. -/
def numbered? (base : Nat) (digits : List Char) : Option Char :=
  match digits.mapM (digitValue? base) with
  | none | some [] => none
  | some values =>
    let n := values.foldl (fun n value => base * n + value) 0
    if n.isValidChar then some (Char.ofNat n) else none

/-- The character that stands between the `&` and the `;` of a reference: one of five by its name,
or any by its number. -/
def referenced? : List Char → Option Char
  | ['l', 't'] => some '<'
  | ['g', 't'] => some '>'
  | ['a', 'm', 'p'] => some '&'
  | ['a', 'p', 'o', 's'] => some '\''
  | ['q', 'u', 'o', 't'] => some '"'
  | '#' :: 'x' :: digits => numbered? 16 digits
  | '#' :: digits => numbered? 10 digits
  | _ => none

namespace Item

/-- The items of a text; behind an `&`, what was read of the reference is kept last first. -/
def read : Option (List Char) → List Char → Option (List Item)
  | none, [] => some []
  | some _, [] => none
  | none, c :: rest =>
    if c = '&' then read (some []) rest
    else if isXmlChar c then (read none rest).map (literal c :: ·)
    else none
  | some name, c :: rest =>
    if c = ';' then
      match referenced? name.reverse with
      | none => none
      | some d => if isXmlChar d then (read none rest).map (referenced d :: ·) else none
    else read (some (c :: name)) rest

/-- The character that an item amounts to in character data. -/
def inText : Item → Char
  | literal c => c
  | referenced c => c

/-- The character that an item amounts to in the value of an attribute, where white space is a blank
unless it is referred to. -/
def inValue : Item → Char
  | literal c => if isSpace c then ' ' else c
  | referenced c => c

end Item

/-! ## Reports -/

/-- What is reported. -/
inductive Report where
  /-- An element begins, with its attributes in order. -/
  | start (name : String) (attributes : List (String × String))
  /-- Character data, up to the next tag. -/
  | text (run : String)
  /-- An element ends. -/
  | stop (name : String)
  deriving DecidableEq

/-- Character data, if there is any. -/
def textReports (run : String) : List Report := if run = "" then [] else [.text run]

/-- Where in a document the next item stands.  What was read of something is kept last first. -/
inductive Place where
  /-- Before the first element. -/
  | before
  /-- In character data. -/
  | content (read : List Item)
  /-- Behind the `<` of a tag. -/
  | opened
  /-- In the name of a tag that begins an element. -/
  | name (read : List Char)
  /-- Behind the name or an attribute, with white space in between or not. -/
  | tag (name : String) (attributes : List (String × String)) (apart : Bool)
  /-- In the name of an attribute. -/
  | key (name : String) (attributes : List (String × String)) (read : List Char)
  /-- Behind the name of an attribute. -/
  | equals (name : String) (attributes : List (String × String)) (key : String)
  /-- Behind the `=` of an attribute. -/
  | quote (name : String) (attributes : List (String × String)) (key : String)
  /-- In the value of an attribute, which ends at a quote. -/
  | value (name : String) (attributes : List (String × String)) (key : String) (quote : Char)
    (read : List Item)
  /-- Behind the `/` of a tag without content. -/
  | empty (name : String) (attributes : List (String × String))
  /-- In the name of a tag that ends an element. -/
  | closing (read : List Char)
  /-- Behind the name of such a tag. -/
  | closed (name : String)
  /-- Behind the first element. -/
  | after

/-- What an item leads to: what is reported, where the next item stands, and the elements that are
open there, the innermost first. -/
abbrev Move := Option (List Report × Place × List String)

/-- Where the next item stands when an element has ended inside others. -/
def leave : List String → Place
  | [] => .after
  | _ => .content []

/-! ## Steps -/

/-- A character behind the name or an attribute of a tag. -/
def stepTag (nested : List String) (name : String) (attributes : List (String × String))
    (apart : Bool) (c : Char) : Move :=
  if isSpace c then some ([], .tag name attributes true, nested)
  else if c = '/' then some ([], .empty name attributes, nested)
  else if c = '>' then some ([.start name attributes.reverse], .content [], name :: nested)
  else if apart then some ([], .key name attributes [c], nested)
  else none

/-- A character behind the name of an attribute. -/
def stepEquals (nested : List String) (name : String) (attributes : List (String × String))
    (key : String) (c : Char) : Move :=
  if isSpace c then some ([], .equals name attributes key, nested)
  else if c = '=' then some ([], .quote name attributes key, nested)
  else none

/-- A character behind the name of a tag that ends an element, which has to be the innermost. -/
def stepClosed (nested : List String) (name : String) (c : Char) : Move :=
  if isSpace c then some ([], .closed name, nested)
  else if c = '>' then
    match nested with
    | [] => none
    | innermost :: others =>
      if innermost = name then some ([.stop name], leave others, others) else none
  else none

/-- **One item of a document.**  An element has one attribute of a name at most; a `<` always begins
a tag, and `]]>` does not stand in character data. -/
def step (nested : List String) : Place → Item → Move
  | .before, .literal c =>
    if isSpace c then some ([], .before, nested)
    else if c = '<' then some ([], .opened, nested)
    else none
  | .content read, item =>
    if item = .literal '<' then
      some (textReports (String.ofList (read.reverse.map Item.inText)), .opened, nested)
    else if item = .literal '>' ∧ read.take 2 = [.literal ']', .literal ']'] then none
    else some ([], .content (item :: read), nested)
  | .opened, .literal c =>
    if c = '/' then some ([], .closing [], nested) else some ([], .name [c], nested)
  | .name read, .literal c =>
    if isSpace c || c == '/' || c == '>' then
      if isName read.reverse then stepTag nested (String.ofList read.reverse) [] false c else none
    else some ([], .name (c :: read), nested)
  | .tag name attributes apart, .literal c => stepTag nested name attributes apart c
  | .key name attributes read, .literal c =>
    if isSpace c || c == '=' then
      if isName read.reverse then
        stepEquals nested name attributes (String.ofList read.reverse) c
      else none
    else some ([], .key name attributes (c :: read), nested)
  | .equals name attributes key, .literal c => stepEquals nested name attributes key c
  | .quote name attributes key, .literal c =>
    if isSpace c then some ([], .quote name attributes key, nested)
    else if c = '"' ∨ c = '\'' then some ([], .value name attributes key c [], nested)
    else none
  | .value name attributes key quote read, item =>
    if item = .literal quote then
      if key ∈ attributes.map (·.1) then none
      else
        let value := String.ofList (read.reverse.map Item.inValue)
        some ([], .tag name ((key, value) :: attributes) false, nested)
    else if item = .literal '<' then none
    else some ([], .value name attributes key quote (item :: read), nested)
  | .empty name attributes, .literal c =>
    if c = '>' then some ([.start name attributes.reverse, .stop name], leave nested, nested)
    else none
  | .closing read, .literal c =>
    if isSpace c || c == '>' then stepClosed nested (String.ofList read.reverse) c
    else some ([], .closing (c :: read), nested)
  | .closed name, .literal c => stepClosed nested name c
  | .after, .literal c => if isSpace c then some ([], .after, nested) else none
  | _, .referenced _ => none

/-- What is reported of some items from a place on. -/
def run : List Item → Place → List String → Option (List Report)
  | [], .after, _ => some []
  | [], _, _ => none
  | item :: rest, place, nested =>
    match step nested place item with
    | none => none
    | some (reports, place, nested) => (run rest place nested).map (reports ++ ·)

/-- **What a processor reports of a document.** -/
def report (document : String) : Option (List Report) :=
  (Item.read none (normalizeLineEnds document.toList)).bind fun items => run items .before []

/-- White space in a value is a blank, but for a reference; line ends are line feeds. -/
example : report "<a b='1&#x41;\t&#9;\r\n2'>\r\n&lt;<c/> </a >"
    = some [.start "a" [("b", "1A \t 2")], .text "\n<", .start "c" [], .stop "c", .text " ",
      .stop "a"] := by decide +kernel

end XmlProcessor
end WebSso
