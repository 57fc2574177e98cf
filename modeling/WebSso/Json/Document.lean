import WebSso.Json.Number

/-!
# JSON documents

## What is here

* `Json.Document`, a value whose parts stand in the order of the text;
* `Json.Fault`, what can be wrong with a document, and `Json.Fault.message`.
-/

set_option autoImplicit false
namespace WebSso
namespace Json

/-- A value. -/
inductive Document where
  /-- The word `null`. -/
  | null
  /-- The words `true` and `false`. -/
  | bool (b : Bool)
  /-- A number. -/
  | number (n : Number)
  /-- A text, with its escapes resolved. -/
  | string (s : String)
  /-- A list. -/
  | array (items : List Document)
  /-- An object: its members, of which several may have one name. -/
  | object (members : List (String × Document))

/-! ## Faults -/

/-- What can be wrong with a document. -/
inductive Fault where
  /-- The text is not JSON. -/
  | malformed
  /-- A value is of the wrong kind. -/
  | invalidType
  /-- A value is of the right kind and out of range. -/
  | invalidValue
  /-- A list stands for a record and has the wrong length. -/
  | invalidLength
  /-- A member that has to be there is not. -/
  | missingField (name : String)
  /-- A member is there twice. -/
  | duplicateField (name : String)
  /-- A member is not known. -/
  | unknownField (name : String)
  /-- A kind is not known. -/
  | unknownVariant (name : String)
  /-- A value is of none of the kinds that the named choice allows. -/
  | noVariant (choice : String)
  /-- A rule about the named attribute or identity is broken. -/
  | rule (detail : String)
  deriving DecidableEq

/-- The wording of a fault.  Text that is not JSON gets a star for its wording, as there is no part
of it to name. -/
def Fault.message : Fault → String
  | malformed => "*"
  | invalidType => "invalid type"
  | invalidValue => "invalid value"
  | invalidLength => "invalid length"
  | missingField name => "missing field `" ++ name ++ "`"
  | duplicateField name => "duplicate field `" ++ name ++ "`"
  | unknownField name => "unknown field `" ++ name ++ "`"
  | unknownVariant name => "unknown variant `" ++ name ++ "`"
  | noVariant choice => "data did not match any variant of untagged enum " ++ choice
  | rule detail => detail

end Json
end WebSso
