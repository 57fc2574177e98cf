import WebSso.Proofs.Attributes.Change
import WebSso.Proofs.Config.Load
import WebSso.Resolver

/-!
# Attributes have one entry for a name, and a value in each

Attributes are kept as a list, and a second entry for a name would be looked up by nobody and
released all the same.  Nothing that is done to attributes makes one: an entry is added only under a
name that has none, and a renaming to a name that is there already merges the two.  What is read
from a configuration also has a value in each entry, and no filter takes the last one away.

## What is here

* `Attributes.names_modify` and its like, what each operation does to the names, and
  `Attributes.mem_updateFirst`, what it leaves of the entries;
* `AttributeFilter.distinct_apply` and `AttributeFilter.valued_apply`, what every filter keeps, and
  `Attributes.regular_of_read`, what is true of attributes that are read;
* `Attributes.Reachable`, the attributes that the operations lead to, and
  `Attributes.Reachable.distinct`;
* `Resolver.regular_of_resolve`: both of whatever is resolved, from a configuration that was
  accepted, whatever the policy.
-/

set_option autoImplicit false
namespace WebSso
namespace Attributes

variable {m : Attributes} {name source target : String}

/-! ## The names -/

theorem contains_iff : m.contains name = true ↔ name ∈ m.names := by
  simp [contains, names, List.any_eq_true]

/-- An entry is left as it was, or it is the first of its name and was changed. -/
theorem mem_updateFirst {change : AttributeEntry → AttributeEntry} {l : List AttributeEntry}
    {e : AttributeEntry} (h : e ∈ updateFirst name change l) :
    e ∈ l ∨ ∃ old ∈ l, change old = e := by
  induction l with
  | nil => cases h
  | cons first rest ih =>
    rw [updateFirst] at h
    split at h
    · obtain rfl | hrest := List.mem_cons.mp h
      · exact Or.inr ⟨first, List.mem_cons_self, rfl⟩
      · exact Or.inl (List.mem_cons_of_mem _ hrest)
    · obtain rfl | hrest := List.mem_cons.mp h
      · exact Or.inl List.mem_cons_self
      · obtain hkept | ⟨old, hold, hchange⟩ := ih hrest
        · exact Or.inl (List.mem_cons_of_mem _ hkept)
        · exact Or.inr ⟨old, List.mem_cons_of_mem _ hold, hchange⟩

/-- New values for a name leave the names as they are. -/
@[simp]
theorem names_modify (m : Attributes) (name : String) (change : List String → List String) :
    (m.modify name change).names = m.names := by
  rcases m with ⟨entries⟩
  simp only [modify, names]
  induction entries with
  | nil => rfl
  | cons e rest ih =>
    rw [updateFirst]
    split
    · rfl
    · rw [List.map_cons, List.map_cons, ih]

/-- A name is added behind the others, unless it is there. -/
theorem names_insert (m : Attributes) (name : String) (values : List String) :
    (m.insert name values).names = if name ∈ m.names then m.names else m.names ++ [name] := by
  rw [insert]
  by_cases h : name ∈ m.names
  · rw [if_pos (contains_iff.mpr h), if_pos h, names_modify]
  · rw [if_neg (mt contains_iff.mp h), if_neg h]
    simp [names]

theorem names_erase (m : Attributes) (name : String) :
    (m.erase name).names = m.names.erase name := by
  rw [List.erase_eq_eraseP', names, names, List.eraseP_map]
  rfl

/-! ## One entry for a name -/

theorem distinct_empty : empty.Distinct := List.nodup_nil

theorem Distinct.modify (h : m.Distinct) (name : String) (change : List String → List String) :
    (m.modify name change).Distinct := by
  rw [Distinct, names_modify]
  exact h

theorem Distinct.insert (h : m.Distinct) (name : String) (values : List String) :
    (m.insert name values).Distinct := by
  rw [Distinct, names_insert]
  split
  · exact h
  · next hnew => exact List.nodup_append.mpr ⟨h, List.nodup_singleton name, by
      rintro other hother _ hname rfl
      exact hnew (List.mem_singleton.mp hname ▸ hother)⟩

theorem Distinct.erase (h : m.Distinct) (name : String) : (m.erase name).Distinct := by
  rw [Distinct, names_erase]
  exact List.Nodup.erase name h

/-- A list may give a name twice, its entries do not. -/
theorem distinct_ofList (entries : List AttributeEntry) : (ofList entries).Distinct := by
  rw [ofList]
  suffices hfold : ∀ m : Attributes, m.Distinct →
      (entries.foldl (fun m e => m.insert e.1 e.2) m).Distinct from hfold empty distinct_empty
  induction entries with
  | nil => exact fun _ h => h
  | cons e rest ih => exact fun m h => ih _ (h.insert e.1 e.2)

/-- An entry that takes a name which is free. -/
theorem nodup_map_updateFirst {l : List AttributeEntry} (h : (l.map (·.1)).Nodup)
    (hfree : target ∉ l.map (·.1)) :
    ((updateFirst source (fun e => (target, e.2)) l).map (·.1)).Nodup := by
  induction l with
  | nil => exact List.nodup_nil
  | cons e rest ih =>
    rw [List.map_cons, List.nodup_cons] at h
    rw [List.map_cons, List.mem_cons, not_or] at hfree
    rw [updateFirst]
    split
    · exact List.nodup_cons.mpr ⟨hfree.2, h.2⟩
    · refine List.nodup_cons.mpr ⟨fun hmem => ?_, ih h.2 hfree.2⟩
      obtain ⟨other, hother, hname⟩ := List.mem_map.mp hmem
      obtain hkept | ⟨old, -, rfl⟩ := mem_updateFirst hother
      · exact h.1 (List.mem_map.mpr ⟨other, hkept, hname⟩)
      · exact hfree.1 hname

/-- **A renaming makes no second entry for a name**: the target is free, or the entries merge. -/
theorem Distinct.rename (h : m.Distinct) (source target : String) :
    (m.rename source target).Distinct := by
  by_cases hne : source = target
  · rwa [hne, rename_self]
  cases hget : m.get? source with
  | none => rwa [rename_of_absent hget]
  | some values =>
    cases hc : m.contains target with
    | true =>
      rw [rename_of_present hne hget hc]
      exact (h.erase source).modify target _
    | false =>
      rw [rename_of_free hne hget hc]
      refine nodup_map_updateFirst h fun hmem => ?_
      rw [contains_iff.mpr hmem] at hc
      cases hc

/-! ## A value in each entry -/

/-- Every entry has a value. -/
def Valued (m : Attributes) : Prop := ∀ e ∈ m.entries, e.2 ≠ []

theorem valued_empty : empty.Valued := nofun

theorem valued_updateFirst {change : AttributeEntry → AttributeEntry} (h : m.Valued)
    (hchange : ∀ e ∈ m.entries, (change e).2 ≠ []) :
    Valued ⟨updateFirst name change m.entries⟩ := by
  intro e he
  obtain hkept | ⟨old, hold, rfl⟩ := mem_updateFirst he
  · exact h e hkept
  · exact hchange old hold

theorem Valued.modify (h : m.Valued) {change : List String → List String}
    (hchange : ∀ values, values ≠ [] → change values ≠ []) : (m.modify name change).Valued :=
  valued_updateFirst h fun e he => hchange e.2 (h e he)

theorem Valued.insert (h : m.Valued) {values : List String} (hvalues : values ≠ []) :
    (m.insert name values).Valued := by
  rw [Attributes.insert]
  split
  · exact h.modify fun _ _ => hvalues
  · intro e he
    obtain hmem | hnew := List.mem_append.mp he
    · exact h e hmem
    · rwa [List.mem_singleton.mp hnew]

theorem Valued.erase (h : m.Valued) (name : String) : (m.erase name).Valued :=
  fun e he => h e (List.mem_of_mem_eraseP he)

/-- **A renaming loses no values**: the entry keeps them, or they go behind others. -/
theorem Valued.rename (h : m.Valued) (source target : String) :
    (m.rename source target).Valued := by
  by_cases hne : source = target
  · rwa [hne, rename_self]
  cases hget : m.get? source with
  | none => rwa [rename_of_absent hget]
  | some values =>
    cases hc : m.contains target with
    | true =>
      rw [rename_of_present hne hget hc]
      exact (h.erase source).modify fun kept hkept => by simp [hkept]
    | false =>
      rw [rename_of_free hne hget hc]
      exact valued_updateFirst h h

end Attributes

open Attributes

/-! ## Filters -/

namespace AttributeFilter

variable {m : Attributes}

/-- **Every filter keeps one entry for a name.** -/
theorem distinct_apply (filter : AttributeFilter) (h : m.Distinct) :
    (filter.apply m).Distinct := by
  cases filter with
  | rename source target => exact h.rename source target
  | singleValue name => exact h.modify name _
  | scope name domain => exact h.modify name _
  | mapValue name source target => exact h.modify name _
  | allow names => exact List.Nodup.sublist (List.filter_sublist.map _) h

/-- **Every filter keeps a value in each entry.** -/
theorem valued_apply (filter : AttributeFilter) (h : m.Valued) : (filter.apply m).Valued := by
  cases filter with
  | rename source target => exact h.rename source target
  | singleValue name => exact h.modify fun values hvalues => by simp [hvalues]
  | scope name domain => exact h.modify fun values hvalues => by simp [hvalues]
  | mapValue name source target => exact h.modify fun values hvalues => by simp [hvalues]
  | allow names => exact fun e he => h e (List.mem_of_mem_filter he)

end AttributeFilter

namespace Attributes

/-- One entry for a name, and a value in each. -/
structure Regular (m : Attributes) : Prop where
  /-- No name has two entries. -/
  distinct : m.Distinct
  /-- Every entry has a value. -/
  valued : m.Valued

/-- A whole policy keeps attributes regular, by induction on its filters. -/
theorem Regular.applyFilters {m : Attributes} (h : m.Regular) (filters : List AttributeFilter) :
    (WebSso.applyFilters filters m).Regular := by
  induction filters generalizing m with
  | nil => exact h
  | cons filter rest ih => exact ih ⟨filter.distinct_apply h.distinct, filter.valued_apply h.valued⟩

/-! ## Reading -/

theorem Regular.readMembers {m result : Attributes} (h : m.Regular)
    {members : List (String × Json.Document)} (hread : readMembers m members = .ok result) :
    result.Regular := by
  induction members generalizing m with
  | nil =>
    cases hread
    exact h
  | cons member rest ih =>
    obtain ⟨name, d⟩ := member
    rw [Attributes.readMembers] at hread
    split at hread
    · cases hread
    split at hread
    · cases hread
    next hvalues =>
    split at hread
    · cases hread
    exact ih ⟨h.distinct.insert name _, h.valued.insert (by simpa using hvalues)⟩ hread

/-- **Attributes that are read are regular.** -/
theorem regular_of_read {d : Json.Document} {m : Attributes} (h : read d = .ok m) : m.Regular := by
  cases d with
  | object members => exact Regular.readMembers ⟨distinct_empty, valued_empty⟩ h
  | array => cases h
  | null => cases h
  | bool => cases h
  | number => cases h
  | string => cases h

/-! ## All that can be done to attributes -/

/-- The attributes that the operations lead to, one after the other. -/
inductive Reachable : Attributes → Prop where
  /-- No attributes. -/
  | empty : Reachable .empty
  /-- The attributes of a list, whatever it holds. -/
  | ofList (entries : List AttributeEntry) : Reachable (.ofList entries)
  /-- Attributes that were read. -/
  | read {d : Json.Document} {m : Attributes} (h : Attributes.read d = .ok m) : Reachable m
  /-- New values for a name, if only none. -/
  | insert {m : Attributes} (h : Reachable m) (name : String) (values : List String) :
      Reachable (m.insert name values)
  /-- The attributes without a name. -/
  | erase {m : Attributes} (h : Reachable m) (name : String) : Reachable (m.erase name)
  /-- The attributes after a filter. -/
  | apply {m : Attributes} (h : Reachable m) (filter : AttributeFilter) :
      Reachable (filter.apply m)

/-- **Whatever is done to attributes, no name has two entries.** -/
theorem Reachable.distinct {m : Attributes} (h : Reachable m) : m.Distinct := by
  induction h with
  | empty => exact distinct_empty
  | ofList entries => exact distinct_ofList entries
  | read h => exact (regular_of_read h).distinct
  | insert _ name values ih => exact ih.insert name values
  | erase _ name ih => exact ih.erase name
  | apply _ filter ih => exact filter.distinct_apply ih

end Attributes

/-! ## What is resolved -/

/-- Each user of a configuration has attributes that were read. -/
theorem Config.exists_read_of_mem {doc : Json.Document} {c : Config}
    (h : Config.read doc = .ok c) {record : IdentityRecord} (hrecord : record ∈ c.identities) :
    ∃ d, Attributes.read d = .ok record.attributes := by
  have hlisted := (listedIn_of_read h).identities
  split at hlisted
  · rw [hlisted] at hrecord
    cases hrecord
  · obtain ⟨members, -, hmembers⟩ := hlisted
    obtain ⟨place, hplace, rfl⟩ := List.getElem_of_mem hrecord
    have hall := List.forall₂_iff_get.1 hmembers
    exact ⟨_, (hall.2 place (hall.1 ▸ hplace) hplace).2⟩

namespace Resolver

/-- What is found under a key, as it is configured and as it is released. -/
theorem exists_record_of_resolve {r : Resolver} {key : String} {identity : ResolvedIdentity}
    (h : r.resolve key = .ok identity) :
    ∃ record, r.directory.identity? key = some record ∧ identity.raw = record.attributes ∧
      identity.released = applyFilters r.filters record.attributes := by
  rw [resolve] at h
  split at h
  · cases h
  · rename_i record hrecord
    cases h
    exact ⟨record, hrecord, rfl, rfl⟩

/-- **What is resolved has one entry for a name and a value in each**, as it is configured and as it
is released.  Whatever the text of a configuration that was accepted and whatever the policy, every
user of it is resolved, and nobody else; and beyond resolving, nothing that can be done to
attributes gives a name two entries. -/
theorem regular_of_resolve {text : String} {c : Config} {r : Resolver}
    (hload : Config.load text = .ok c) (hresolver : c.resolver = .ok r)
    (filters : List AttributeFilter) :
    (∀ key, (∃ identity, { r with filters }.resolve key = .ok identity) ↔
        ∃ record ∈ c.identities, record.key = key) ∧
      (∀ key identity, { r with filters }.resolve key = .ok identity →
        identity.raw.Regular ∧ identity.released.Regular) ∧
      ∀ m : Attributes, m.Reachable → m.Distinct := by
  obtain ⟨doc, -, hread, valid⟩ := Config.exists_of_load hload
  have hdirectory := Config.directory_of_resolver hresolver
  have hrepresents :=
    Config.represents_of_directoryWith (Config.nodup_key_of_read hread) valid hdirectory
  refine ⟨fun key => ⟨?_, ?_⟩, fun key identity h => ?_, fun m => Reachable.distinct⟩
  · rintro ⟨identity, h⟩
    obtain ⟨record, hrecord, -⟩ := exists_record_of_resolve h
    exact ⟨record, (hrepresents.user key record).mp hrecord⟩
  · rintro ⟨record, hrecord⟩
    have hfound := (hrepresents.user key record).mpr hrecord
    exact ⟨_, by rw [resolve, hfound]⟩
  · obtain ⟨record, hrecord, hraw, hreleased⟩ := exists_record_of_resolve h
    obtain ⟨hmem, -⟩ := (hrepresents.user key record).mp hrecord
    obtain ⟨d, hd⟩ := Config.exists_read_of_mem hread hmem
    have hregular := regular_of_read hd
    rw [hraw, hreleased]
    exact ⟨hregular, hregular.applyFilters filters⟩

/-- A configuration with a user whose mail addresses are merged into the attribute before them,
which is then cut short. -/
def mergingText : String :=
  "\x7b\"entity_id\":\"idp\",\"attribute_filters\":[" ++
    "\x7b\"type\":\"rename\",\"from\":\"mail\",\"to\":\"uid\"\x7d," ++
    "\x7b\"type\":\"single_value\",\"name\":\"uid\"\x7d]," ++
    "\"identities\":\x7b\"a:1\":\x7b\"uid\":\"a\",\"mail\":[\"m\",\"n\"]\x7d\x7d\x7d"

theorem regular_of_resolve_merging :
    ∃ c r identity, Config.load mergingText = .ok c ∧ c.resolver = .ok r ∧
      r.resolve "a:1" = .ok identity ∧ identity.raw.Regular ∧ identity.released.Regular := by
  have hall : (Config.load mergingText).toOption.any (fun c =>
      c.resolver.toOption.isSome && c.identities.any (·.key == "a:1")) = true := by decide +kernel
  cases hload : Config.load mergingText with
  | error cause =>
    rw [hload] at hall
    cases hall
  | ok c =>
    rw [hload] at hall
    obtain ⟨hresolver, hkey⟩ := Bool.and_eq_true_iff.mp hall
    cases hr : c.resolver with
    | error cause =>
      rw [hr] at hresolver
      cases hresolver
    | ok r =>
      obtain ⟨hresolved, hregular, -⟩ := regular_of_resolve hload hr r.filters
      obtain ⟨identity, h⟩ := (hresolved "a:1").mpr (by simpa using hkey)
      exact ⟨c, r, identity, rfl, hr, h, hregular "a:1" identity h⟩

end Resolver

end WebSso
