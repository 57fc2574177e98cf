import WebSso.Text.Printable

/-!
# Values described for a reader

Values are shown in logs and messages for operators as text: a record by its name and its fields,
a list by its items, text in quotes.

## What is here

* `quoted`, text in quotes, with a reference for every character that could not be seen;
* `describeList`, `describeSet`, `describeRecord` and `describePartly`, a record of which not every
  field is shown.
-/

set_option autoImplicit false
namespace WebSso

/-- A character within quotes. -/
def quotedChar (c : Char) : List Char :=
  if c = '\x00' then ['\\', '0']
  else if c = '\t' then ['\\', 't']
  else if c = '\r' then ['\\', 'r']
  else if c = '\n' then ['\\', 'n']
  else if c = '\\' ∨ c = '"' then ['\\', c]
  else if isPrintable c then [c]
  else '\\' :: 'u' :: '\x7b' :: Nat.toDigits 16 c.toNat ++ ['\x7d']

/-- Text in quotes. -/
def quoted (text : String) : String :=
  "\"" ++ String.ofList (text.toList.flatMap quotedChar) ++ "\""

/-- Items with commas between them. -/
def commaSeparated (items : List String) : String := ", ".intercalate items

/-- A list of items. -/
def describeList (items : List String) : String := "[" ++ commaSeparated items ++ "]"

/-- A set of items. -/
def describeSet (items : List String) : String := "\x7b" ++ commaSeparated items ++ "\x7d"

/-- A field of a record. -/
def describeField (field : String × String) : String := field.1 ++ ": " ++ field.2

/-- A record with all its fields. -/
def describeRecord (name : String) (fields : List (String × String)) : String :=
  name ++ " \x7b " ++ commaSeparated (fields.map describeField) ++ " \x7d"

/-- A record with some of its fields. -/
def describePartly (name : String) (fields : List (String × String)) : String :=
  name ++ " \x7b " ++ commaSeparated (fields.map describeField ++ [".."]) ++ " \x7d"

/-- A value that may be absent. -/
def describeOption : Option String → String
  | none => "None"
  | some value => "Some(" ++ value ++ ")"

end WebSso
