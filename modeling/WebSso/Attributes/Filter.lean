import WebSso.Attributes

/-!
# Filters

The release policy of an identity provider: filters that are applied to the attributes of an
identity one after the other, in configured order.

## What is here

* `AttributeFilter`, the five kinds of filter, and `AttributeFilter.apply`;
* `applyFilters`, the whole policy.
-/

set_option autoImplicit false
namespace WebSso

/-- A step of the release policy. -/
inductive AttributeFilter where
  /-- An attribute gets another name. -/
  | rename (source target : String)
  /-- Only the first value of an attribute is kept. -/
  | singleValue (name : String)
  /-- A domain is put behind every value of an attribute that has none. -/
  | scope (name domain : String)
  /-- Only the named attributes are kept. -/
  | allow (names : List String)
  /-- A value of an attribute is replaced wherever it occurs. -/
  | mapValue (name source target : String)
  deriving DecidableEq

/-- A value with a domain behind it, unless it names one already. -/
def withDomain (domain value : String) : String :=
  if value.toList.contains '@' then value else value ++ "@" ++ domain

namespace AttributeFilter

/-- The attributes after a filter. -/
def apply (filter : AttributeFilter) (m : Attributes) : Attributes :=
  match filter with
  | rename source target => m.rename source target
  | singleValue name => m.modify name fun values => values.take 1
  | scope name domain => m.modify name fun values => values.map (withDomain domain)
  | allow names => ⟨m.entries.filter fun e => names.contains e.1⟩
  | mapValue name source target =>
      m.modify name fun values => values.map fun v => if v = source then target else v

end AttributeFilter

/-- The attributes after all filters, the first one first. -/
def applyFilters (filters : List AttributeFilter) (m : Attributes) : Attributes :=
  filters.foldl (fun m filter => filter.apply m) m

end WebSso
