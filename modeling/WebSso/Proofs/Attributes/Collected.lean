import Mathlib.Data.List.DropRight
import WebSso.Proofs.Attributes.Reorder
import WebSso.Proofs.Keyed

/-!
# What attributes keep of what was given

Attributes are collected from entries, and entries are put in and taken out one after another.  A
name that comes again keeps its place and gets the new values; a name that was taken out has lost
its place, and stands behind all others when it comes back.  So what attributes hold can be told
from all that was done: only insertions that no erasure of their name comes after count, and of
these each name has the place of the first and the values of the last.

## What is here

* `Attributes.entries_insert` and `Attributes.entries_ofList`, attributes as what is kept of pairs;
* `AttributeCall`, one insertion or erasure, and `Attributes.ofCalls`, what a list of them leads to;
* `AttributeCall.surviving`, what the insertions that count put in, and
  `Attributes.entries_ofCalls`, by which nothing else does;
* `AttributeCall.sinceErased`, what was put in since a name was last erased, with
  `AttributeCall.valuesOf_surviving`;
* `Attributes.KeepsLast` and `Attributes.keepsLast_of_given`, what is kept of any entries and of any
  calls.
-/

set_option autoImplicit false
namespace WebSso
namespace Attributes

/-! ## Entries given one after another -/

theorem get?_eq_lookup (m : Attributes) (name : String) : m.get? name = m.entries.lookup name := by
  rcases m with ⟨entries⟩
  simp only [get?]
  induction entries with
  | nil => rfl
  | cons e rest ih =>
    rw [lookup_cons_eq_ite, ← ih]
    by_cases h : e.1 = name <;> simp [h]

theorem putInPlace_eq_updateFirst {name : String} {values : List String} {l : List AttributeEntry}
    (h : name ∈ l.map (·.1)) :
    putInPlace name values l = updateFirst name (fun e => (e.1, values)) l := by
  induction l with
  | nil => cases h
  | cons e rest ih =>
    rw [putInPlace, updateFirst]
    by_cases he : e.1 = name
    · rw [if_pos he, if_pos he, he]
    · obtain hname | hrest := List.mem_cons.mp h
      · exact absurd hname.symm he
      · rw [if_neg he, if_neg he, ih hrest]

theorem putInPlace_eq_append {name : String} {values : List String} {l : List AttributeEntry}
    (h : name ∉ l.map (·.1)) : putInPlace name values l = l ++ [(name, values)] := by
  induction l with
  | nil => rfl
  | cons e rest ih =>
    rw [List.map_cons, List.mem_cons, not_or] at h
    rw [putInPlace, if_neg (Ne.symm h.1), ih h.2, List.cons_append]

/-- New values take the place of old ones. -/
theorem entries_insert (m : Attributes) (name : String) (values : List String) :
    (m.insert name values).entries = putInPlace name values m.entries := by
  rw [insert]
  by_cases h : name ∈ m.names
  · rw [if_pos (contains_iff.mpr h), putInPlace_eq_updateFirst h, modify]
  · rw [if_neg (mt contains_iff.mp h), putInPlace_eq_append h]

/-- **Collecting keeps what was given last, where its name was given first.** -/
theorem entries_ofList (given : List AttributeEntry) :
    (ofList given).entries = keptInPlace given := by
  rw [keptInPlace, ← arranges_putInPlace.foldl_eq]
  exact (List.foldl_hom entries fun m e => (entries_insert m e.1 e.2).symm).symm

end Attributes

/-! ## Insertions and erasures -/

/-- One thing that is done to attributes. -/
inductive AttributeCall where
  /-- New values for a name. -/
  | insert (name : String) (values : List String)
  /-- The name is taken out. -/
  | erase (name : String)
  deriving DecidableEq

namespace AttributeCall
variable {calls : List AttributeCall}

/-- The entry that is put in. -/
def entry? : AttributeCall → Option AttributeEntry
  | insert name values => some (name, values)
  | erase _ => none

/-- The entries put in by insertions that no erasure of their name comes after. -/
def surviving : List AttributeCall → List AttributeEntry
  | [] => []
  | insert name values :: rest =>
    if erase name ∈ rest then surviving rest else (name, values) :: surviving rest
  | erase _ :: rest => surviving rest

theorem surviving_concat_insert (calls : List AttributeCall) (name : String)
    (values : List String) :
    surviving (calls ++ [insert name values]) = surviving calls ++ [(name, values)] := by
  induction calls with
  | nil => rfl
  | cons call rest ih =>
    cases call with
    | insert other old =>
      by_cases h : erase other ∈ rest <;> simp [surviving, ih, h]
    | erase other => exact ih

theorem surviving_concat_erase (calls : List AttributeCall) (name : String) :
    surviving (calls ++ [erase name]) = (surviving calls).filter fun e => e.1 != name := by
  induction calls with
  | nil => rfl
  | cons call rest ih =>
    cases call with
    | insert other old =>
      by_cases h : erase other ∈ rest
      · simp [surviving, ih, h]
      · obtain rfl | ho := eq_or_ne other name
        · simp [surviving, ih, h]
        · simp [surviving, ih, h, ho]
    | erase other => exact ih

/-- The entries put in since a name was last erased, or all of them. -/
def sinceErased (name : String) (calls : List AttributeCall) : List AttributeEntry :=
  (calls.rtakeWhile (· != erase name)).filterMap entry?

theorem sinceErased_concat_insert (name other : String) (calls : List AttributeCall)
    (values : List String) :
    sinceErased name (calls ++ [insert other values])
      = sinceErased name calls ++ [(other, values)] := by
  have hsince : (insert other values != erase name) = true := rfl
  rw [sinceErased, List.rtakeWhile_concat, if_pos hsince, List.filterMap_append]
  rfl

theorem sinceErased_concat_erase (name other : String) (calls : List AttributeCall) :
    sinceErased name (calls ++ [erase other])
      = if other = name then [] else sinceErased name calls := by
  rw [sinceErased, List.rtakeWhile_concat]
  by_cases h : other = name
  · simp [h]
  · have hsince : (erase other != erase name) = true := by simpa using h
    rw [if_neg h, if_pos hsince, List.filterMap_append]
    exact List.append_nil _

/-- Of each name, what was put in since it was last erased survives. -/
theorem valuesOf_surviving (name : String) (calls : List AttributeCall) :
    valuesOf name (surviving calls) = valuesOf name (sinceErased name calls) := by
  induction calls using List.reverseRecOn with
  | nil => rfl
  | append_singleton calls c ih =>
    cases c with
    | insert other values =>
      rw [surviving_concat_insert, sinceErased_concat_insert, valuesOf_concat, valuesOf_concat, ih]
    | erase other =>
      rw [surviving_concat_erase, sinceErased_concat_erase, valuesOf_filter_ne, ih]
      split <;> rfl

end AttributeCall

namespace Attributes

open AttributeCall

/-- Attributes after a call. -/
def call (m : Attributes) : AttributeCall → Attributes
  | .insert name values => m.insert name values
  | .erase name => m.erase name

/-- The attributes that some calls lead to, first to last. -/
def ofCalls (calls : List AttributeCall) : Attributes := calls.foldl call empty

theorem ofCalls_concat (calls : List AttributeCall) (c : AttributeCall) :
    ofCalls (calls ++ [c]) = (ofCalls calls).call c := by
  rw [ofCalls, ofCalls, List.foldl_append, List.foldl_cons, List.foldl_nil]

/-- **Only the insertions count that no erasure of their name comes after.** -/
theorem entries_ofCalls (calls : List AttributeCall) :
    (ofCalls calls).entries = keptInPlace (surviving calls) := by
  induction calls using List.reverseRecOn with
  | nil => rfl
  | append_singleton calls c ih =>
    rw [ofCalls_concat]
    cases c with
    | insert name values =>
      rw [surviving_concat_insert, keptInPlace_concat, ← ih]
      exact entries_insert _ name values
    | erase name =>
      have hdistinct : ((ofCalls calls).entries.map (·.1)).Nodup := by
        rw [ih]
        exact (isKept_keptInPlace _).once
      rw [surviving_concat_erase, ← filter_keptInPlace, ← ih]
      exact eraseP_eq_filter hdistinct

/-- What is found under a name was put in since the name was last erased. -/
theorem get?_ofCalls (calls : List AttributeCall) (name : String) :
    (ofCalls calls).get? name = lastOf? name (sinceErased name calls) := by
  rw [get?_eq_lookup, entries_ofCalls, (isKept_keptInPlace _).last, lastOf?_eq_getLast?,
    valuesOf_surviving, lastOf?_eq_getLast?]

/-! ## What is kept -/

/-- What attributes keep of entries given one after another. -/
structure KeepsLast (given : List AttributeEntry) (m : Attributes) : Prop where
  /-- The names are those that were given, each once, in the order in which they came first. -/
  names : m.names = (given.map (·.1)).eraseDups
  /-- Each entry has the values that its name was given last. -/
  entries : ∀ e ∈ m.entries, lastOf? e.1 given = some e.2
  /-- A name is looked up with the values it was given last, if it was given any. -/
  found (name : String) : m.get? name = lastOf? name given

theorem keepsLast_of_entries {given : List AttributeEntry} {m : Attributes}
    (h : m.entries = keptInPlace given) : KeepsLast given m := by
  have hkept : IsKept given m.entries := h ▸ isKept_keptInPlace given
  refine ⟨?_, fun e he => hkept.lastOf?_of_mem he, fun name => ?_⟩
  · rw [names, h]
    exact keys_keptInPlace given
  · rw [get?_eq_lookup, hkept.last]

/-- **What attributes keep.**  Of entries that are collected, each name stands where it was given
first, with the values it was given last.  Of any insertions and erasures the same is kept of the
insertions that no erasure of their name comes after, which are those since their name was last
erased; in particular a name is looked up with the last values that were put in since then, and is
not there if none were. -/
theorem keepsLast_of_given :
    (∀ given, KeepsLast given (ofList given)) ∧
      ∀ calls, KeepsLast (surviving calls) (ofCalls calls) ∧ ∀ name,
        valuesOf name (surviving calls) = valuesOf name (sinceErased name calls) ∧
          (ofCalls calls).get? name = lastOf? name (sinceErased name calls) :=
  ⟨fun given => keepsLast_of_entries (entries_ofList given), fun calls =>
    ⟨keepsLast_of_entries (entries_ofCalls calls), fun name =>
      ⟨valuesOf_surviving name calls, get?_ofCalls calls name⟩⟩⟩

/-- A name that was taken out comes back behind the others. -/
example : (ofCalls [.insert "mail" ["a"], .insert "uid" ["u"], .insert "cn" [], .erase "mail",
    .insert "uid" ["v", "w"], .insert "mail" ["b"]]).entries
      = [("uid", ["v", "w"]), ("cn", []), ("mail", ["b"])] := by decide

end Attributes
end WebSso
