import WebSso.Json.Parse

/-!
# Reading values out of documents

A reader takes a document to a value or to the first fault in the order of the text.  A text that
is not JSON has no other fault.

## What is here

* readers for texts, flags, unsigned numbers, optional values and lists;
* `Json.FieldReader` and `Json.readRecord`, a record written as an object, with its members in any
  order, or as a list, with its fields in their own order;
* `Json.readText`, which reads a whole text.
-/

set_option autoImplicit false
namespace WebSso
namespace Json

/-- What takes a document to a value or to the first fault in it. -/
abbrev Reader (α : Type) := Document → Except Fault α

/-! ## Plain values -/

/-- The fault of a value that is of no kind a reader takes. -/
def refuse {α : Type} : Except Fault α := .error .invalidType

/-- A text. -/
def readString : Reader String
  | .string s => .ok s
  | _ => refuse

/-- A flag. -/
def readBool : Reader Bool
  | .bool b => .ok b
  | _ => refuse

/-- A number of 64 bits without a sign. -/
def readNatural : Reader Nat
  | .number (.natural n) => .ok n
  | .number .negative => .error .invalidValue
  | _ => refuse

/-- A value that may be `null`. -/
def readOptional {α : Type} (read : Reader α) : Reader (Option α)
  | .null => .ok none
  | d => (read d).map some

/-- A list. -/
def readList {α : Type} (read : Reader α) : Reader (List α)
  | .array items => items.mapM read
  | _ => refuse

/-! ## Records -/

/-- A field of a record of type `σ`. -/
structure FieldReader (σ : Type) where
  /-- The name of its member. -/
  name : String
  /-- Whether it has to be there. -/
  required : Bool
  /-- The record with the field set to what a document says. -/
  set : Document → σ → Except Fault σ

/-- A field read by a reader and stored by a function. -/
def field {σ α : Type} (name : String) (required : Bool) (read : Reader α) (store : α → σ → σ) :
    FieldReader σ where
  name := name
  required := required
  set d record := (read d).map fun a => store a record

/-- The members of an object, in their order.  A name that is no field's is a fault if the record is
`strict`, and is passed over otherwise. -/
def readMembers {σ : Type} (strict : Bool) (fields : List (FieldReader σ)) :
    List String → σ → List (String × Document) → Except Fault (List String × σ)
  | seen, record, [] => .ok (seen, record)
  | seen, record, (name, d) :: rest =>
    match fields.find? fun f => f.name == name with
    | none =>
      if strict then .error (.unknownField name) else readMembers strict fields seen record rest
    | some f =>
      if seen.contains name then .error (.duplicateField name)
      else
        match f.set d record with
        | .error e => .error e
        | .ok record => readMembers strict fields (name :: seen) record rest

/-- The first field that has to be there and was not seen. -/
def missing? {σ : Type} (fields : List (FieldReader σ)) (seen : List String) : Option String :=
  (fields.find? fun f => f.required && !seen.contains f.name).map (·.name)

/-- A record written as an object. -/
def readObject {σ : Type} (strict : Bool) (fields : List (FieldReader σ)) (initial : σ)
    (members : List (String × Document)) : Except Fault σ := do
  let (seen, record) ← readMembers strict fields [] initial members
  match missing? fields seen with
  | some name => .error (.missingField name)
  | none => .ok record

/-- A record written as a list of its fields.  Fields at the end may be left out if none of them
has to be there; `surplus` is the fault of a list that goes on behind the last field. -/
def readTuple {σ : Type} (surplus : Fault) :
    List (FieldReader σ) → σ → List Document → Except Fault σ
  | [], record, [] => .ok record
  | [], _, _ :: _ => .error surplus
  | f :: fields, record, [] =>
    if f.required then .error .invalidLength else readTuple surplus fields record []
  | f :: fields, record, d :: rest =>
    match f.set d record with
    | .error e => .error e
    | .ok record => readTuple surplus fields record rest

/-- A record of which all members are known.  A list must not go on behind the last field; that it
does is found as if the text were not JSON. -/
def readRecord {σ : Type} (fields : List (FieldReader σ)) (initial : σ) : Reader σ
  | .object members => readObject true fields initial members
  | .array items => readTuple .malformed fields initial items
  | _ => refuse

/-! ## Whole texts -/

/-- The value of a whole text. -/
def readText {α : Type} (read : Reader α) (text : String) : Except Fault α :=
  match parse? text with
  | some d => read d
  | none => .error .malformed

end Json
end WebSso
