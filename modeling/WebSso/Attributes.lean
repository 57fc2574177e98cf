/-!
# Attributes of an identity

What an identity provider knows of a user: named attributes, each with its values, in the order in
which they were configured.

## What is here

* `Attributes`, the entries in order; `Attributes.names`, `get?`, `first?` look into them;
* `Attributes.insert`, which keeps the place of a name that is there already, `Attributes.erase`,
  `Attributes.ofList`;
* `Attributes.modify` and `Attributes.rename`, the steps that filters are made of;
* `Attributes.Distinct`, every name has one entry.
-/

set_option autoImplicit false
namespace WebSso

/-- An attribute: its name and its values. -/
abbrev AttributeEntry := String × List String

/-- Attributes in the order of their configuration. -/
structure Attributes where
  /-- The entries, first to last. -/
  entries : List AttributeEntry
  deriving DecidableEq

namespace Attributes

/-- No attribute. -/
def empty : Attributes := ⟨[]⟩

/-- The names, first to last. -/
def names (m : Attributes) : List String := m.entries.map (·.1)

/-- Every name has one entry. -/
def Distinct (m : Attributes) : Prop := m.names.Nodup

/-! ## Looking up -/

/-- The values of a name. -/
def get? (m : Attributes) (name : String) : Option (List String) :=
  (m.entries.find? fun e => e.1 == name).map (·.2)

/-- Whether a name has an entry. -/
def contains (m : Attributes) (name : String) : Bool := m.entries.any fun e => e.1 == name

/-- The first value of a name. -/
def first? (m : Attributes) (name : String) : Option String :=
  (m.get? name).bind List.head?

/-- The number of attributes. -/
def size (m : Attributes) : Nat := m.entries.length

/-- Whether there is no attribute. -/
def isEmpty (m : Attributes) : Bool := m.entries.isEmpty

/-! ## Changing -/

/-- Entries in which the first one of a name is changed, if there is one. -/
def updateFirst (name : String) (change : AttributeEntry → AttributeEntry) :
    List AttributeEntry → List AttributeEntry
  | [] => []
  | e :: rest => if e.1 = name then change e :: rest else e :: updateFirst name change rest

/-- The attributes with the values of a name changed. -/
def modify (m : Attributes) (name : String) (change : List String → List String) : Attributes :=
  ⟨updateFirst name (fun e => (e.1, change e.2)) m.entries⟩

/-- The attributes with the given values for a name: in its place if it is there, at the end
otherwise. -/
def insert (m : Attributes) (name : String) (values : List String) : Attributes :=
  if m.contains name then m.modify name fun _ => values
  else ⟨m.entries ++ [(name, values)]⟩

/-- The attributes without a name. -/
def erase (m : Attributes) (name : String) : Attributes :=
  ⟨m.entries.eraseP fun e => e.1 == name⟩

/-- The attributes of a list; a name given again replaces its values. -/
def ofList (entries : List AttributeEntry) : Attributes :=
  entries.foldl (fun m e => m.insert e.1 e.2) empty

/-- The attributes with one renamed.  If the new name is there already, the values go behind the
values it has, and the entry of the old name is dropped. -/
def rename (m : Attributes) (source target : String) : Attributes :=
  if source = target then m
  else
    match m.get? source with
    | none => m
    | some values =>
      if m.contains target then (m.erase source).modify target fun kept => kept ++ values
      else ⟨updateFirst source (fun e => (target, e.2)) m.entries⟩

end Attributes

end WebSso
