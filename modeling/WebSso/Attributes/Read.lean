import WebSso.Attributes.Filter
import WebSso.Json.Read

/-!
# Attributes and filters in a configuration

## What is here

* `Attributes.read`, an object whose members are attributes: each value is a text or a list of
  texts, there is at least one, and no name is given twice;
* `AttributeFilter.read`, an object that says its kind in the member `type`, or a list that starts
  with it.
-/

set_option autoImplicit false
namespace WebSso

open Json

/-! ## Attributes -/

namespace Attributes

/-- The texts of a list, if it holds nothing else. -/
def texts? : List Document → Option (List String)
  | [] => some []
  | .string s :: rest => (texts? rest).map (s :: ·)
  | _ :: _ => none

/-- The values of an attribute: a text stands for a list of one. -/
def readValues : Reader (List String)
  | .string s => .ok [s]
  | .array items =>
    match texts? items with
    | some values => .ok values
    | none => .error (.noVariant "OneOrMany")
  | _ => .error (.noVariant "OneOrMany")

/-- The attributes of members in order, behind attributes already read. -/
def readMembers (m : Attributes) : List (String × Document) → Except Json.Fault Attributes
  | [] => .ok m
  | (name, d) :: rest =>
    match readValues d with
    | .error e => .error e
    | .ok values =>
      if values.isEmpty then .error (.rule ("attribute " ++ name ++ " has no values"))
      else if m.contains name then .error (.rule ("attribute " ++ name ++ " is listed twice"))
      else readMembers (m.insert name values) rest

/-- Attributes. -/
def read : Reader Attributes
  | .object members => readMembers empty members
  | _ => refuse

end Attributes

/-! ## Filters -/

namespace AttributeFilter

/-- The kinds of filter, by the word that `type` says. -/
inductive Kind where
  | rename
  | singleValue
  | scope
  | allow
  | mapValue

/-- The kind that `type` says. -/
def readKind : Reader Kind
  | .string "rename" => .ok .rename
  | .string "single_value" => .ok .singleValue
  | .string "scope" => .ok .scope
  | .string "allow" => .ok .allow
  | .string "map_value" => .ok .mapValue
  | .string other => .error (.unknownVariant other)
  | _ => refuse

/-- The members of a filter as they are read: the texts by name, and the names to allow. -/
structure Draft where
  /-- The first text that the kind has: a source or a name. -/
  first : String
  /-- The second: a target or a domain, or the source of a mapped value. -/
  second : String
  /-- The third: the target of a mapped value. -/
  third : String
  /-- The names to allow. -/
  names : List String

/-- A draft before anything is read. -/
def Draft.empty : Draft := ⟨"", "", "", []⟩

/-- A member that holds a text. -/
def textField (name : String) (store : String → Draft → Draft) : FieldReader Draft :=
  field name true readString store

/-- The members of a kind, in their order. -/
def fields : Kind → List (FieldReader Draft)
  | .rename =>
    [textField "from" fun s draft => { draft with first := s },
      textField "to" fun s draft => { draft with second := s }]
  | .singleValue => [textField "name" fun s draft => { draft with first := s }]
  | .scope =>
    [textField "name" fun s draft => { draft with first := s },
      textField "domain" fun s draft => { draft with second := s }]
  | .allow =>
    [field "names" true (readList readString) fun names draft => { draft with names := names }]
  | .mapValue =>
    [textField "name" fun s draft => { draft with first := s },
      textField "from" fun s draft => { draft with second := s },
      textField "to" fun s draft => { draft with third := s }]

/-- The filter of a kind and its members. -/
def ofDraft (kind : Kind) (draft : Draft) : AttributeFilter :=
  match kind with
  | .rename => AttributeFilter.rename draft.first draft.second
  | .singleValue => AttributeFilter.singleValue draft.first
  | .scope => AttributeFilter.scope draft.first draft.second
  | .allow => AttributeFilter.allow draft.names
  | .mapValue => AttributeFilter.mapValue draft.first draft.second draft.third

/-- The member that says the kind. -/
def kindMember : String := "type"

/-- The kind of an object and its other members, in order, behind those already read, which are
kept last first. -/
def splitMembers (kind : Option Kind) (others : List (String × Document)) :
    List (String × Document) → Except Json.Fault (Option Kind × List (String × Document))
  | [] => .ok (kind, others.reverse)
  | (name, d) :: rest =>
    if name = kindMember then
      if kind.isSome then .error (.duplicateField kindMember)
      else
        match readKind d with
        | .error e => .error e
        | .ok k => splitMembers (some k) others rest
    else splitMembers kind ((name, d) :: others) rest

/-- A filter.  Members that its kind does not have are passed over; a list has to be as long as its
kind says. -/
def read : Reader AttributeFilter
  | .object members => do
    let (kind, others) ← splitMembers none [] members
    match kind with
    | none => .error (.missingField kindMember)
    | some kind =>
      let draft ← readObject false (fields kind) Draft.empty others
      return ofDraft kind draft
  | .array [] => .error (.missingField kindMember)
  | .array (first :: items) => do
    let kind ← readKind first
    let draft ← readTuple .invalidLength (fields kind) Draft.empty items
    return ofDraft kind draft
  | _ => refuse

end AttributeFilter

end WebSso
