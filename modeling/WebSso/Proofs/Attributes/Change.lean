import WebSso.Attributes

/-!
# Changing attributes

Attributes are changed one entry at a time, always the first of its name.

## What is here

* `Attributes.filter_updateFirst_of_kept` and its like: a change of one entry, seen by somebody who
  is shown some of the entries;
* `Attributes.rename_of_absent`, `rename_of_present` and `rename_of_free`, what a renaming comes to.
-/

set_option autoImplicit false
namespace WebSso
namespace Attributes

/-! ## A change among the entries that are kept -/

section Update

variable {name : String} {change : AttributeEntry → AttributeEntry} {keep : AttributeEntry → Bool}

/-- An entry that is kept before its change and after it is changed among those kept. -/
theorem filter_updateFirst_of_kept (h : ∀ e, e.1 = name → keep e = true ∧ keep (change e) = true)
    (l : List AttributeEntry) :
    (updateFirst name change l).filter keep = updateFirst name change (l.filter keep) := by
  induction l with
  | nil => rfl
  | cons e rest ih =>
    by_cases he : e.1 = name
    · have ⟨before, after⟩ := h e he
      simp [updateFirst, he, before, after]
    · cases hk : keep e with
      | true => simp [updateFirst, he, hk, ih]
      | false => simp [updateFirst, he, hk, ih]

/-- An entry that is kept before its change and not after it is dropped from those kept. -/
theorem filter_updateFirst_of_lost (h : ∀ e, e.1 = name → keep e = true ∧ keep (change e) = false)
    (l : List AttributeEntry) :
    (updateFirst name change l).filter keep = (l.filter keep).eraseP fun e => e.1 == name := by
  induction l with
  | nil => rfl
  | cons e rest ih =>
    by_cases he : e.1 = name
    · have ⟨before, after⟩ := h e he
      simp [updateFirst, he, before, after]
    · cases hk : keep e with
      | true => simp [updateFirst, he, hk, ih]
      | false => simp [updateFirst, he, hk, ih]

/-- An entry that is kept neither before its change nor after it does not show. -/
theorem filter_updateFirst_of_hidden
    (h : ∀ e, e.1 = name → keep e = false ∧ keep (change e) = false) (l : List AttributeEntry) :
    (updateFirst name change l).filter keep = l.filter keep := by
  induction l with
  | nil => rfl
  | cons e rest ih =>
    by_cases he : e.1 = name
    · have ⟨before, after⟩ := h e he
      simp [updateFirst, he, before, after]
    · simp [updateFirst, he, List.filter_cons, ih]

end Update

/-! ## Renaming -/

section Rename

variable {m : Attributes} {source target : String}

/-- A name that has no values has no entry to erase. -/
theorem erase_of_absent (h : m.get? source = none) : m.erase source = m := by
  have habsent : ∀ e ∈ m.entries, ¬ (e.1 == source) = true := by
    simpa [get?] using h
  rw [erase, List.eraseP_of_forall_not habsent]

theorem rename_self (m : Attributes) (name : String) : m.rename name name = m := if_pos rfl

/-- There is nothing to rename. -/
theorem rename_of_absent (h : m.get? source = none) (target : String) :
    m.rename source target = m := by
  rw [rename, h]
  exact ite_self m

/-- The values go behind those that the new name has. -/
theorem rename_of_present {values : List String} (hne : source ≠ target)
    (h : m.get? source = some values) (hc : m.contains target = true) :
    m.rename source target = (m.erase source).modify target fun kept => kept ++ values := by
  rw [rename, if_neg hne, h]
  exact if_pos hc

/-- The entry gets the new name, which is free. -/
theorem rename_of_free {values : List String} (hne : source ≠ target)
    (h : m.get? source = some values) (hc : m.contains target = false) :
    m.rename source target = ⟨updateFirst source (fun e => (target, e.2)) m.entries⟩ := by
  rw [rename, if_neg hne, h]
  exact if_neg (by rw [hc]; exact Bool.false_ne_true)

end Rename

end Attributes
end WebSso
