import WebSso.Proofs.Attributes.Rename

/-!
# Filters repeated and reordered

A release policy is a list of filters, and its order matters: what is renamed after it was cut short
is not what is cut short after it was renamed.  This file says when the order does not matter, and
that a filter never has more to do the second time.

For the order, a filter is looked at entry by entry.  What it makes of an entry depends on the
entry and, for a renaming, on the values of the two names it speaks of; entries of other names it
leaves alone.  So two filters that speak of different names do not see each other's work, and what
both make of an entry is what one of them does.  The filter that allows names is the exception, as
it takes out entries that it does not speak of; it changes places with a filter if it keeps all of
the names that one speaks of, or none.

## What is here

* `Attributes.Reachable.apply_idem`: twice is once;
* `AttributeFilter.effect?`, what a filter makes of an entry, with `entries_apply`;
* `AttributeFilter.apply_comm_of_disjoint` and `AttributeFilter.apply_comm_allow`, the filters that
  change places;
* `AttributeFilter.Swappable` and `Reordering`, lists of filters that differ by such swaps, with
  `independent_filters_commute`: they release the same of every user.
-/

set_option autoImplicit false
namespace WebSso

/-! ## Twice is once -/

/-- A value with a domain behind it names one. -/
theorem withDomain_withDomain (domain value : String) :
    withDomain domain (withDomain domain value) = withDomain domain value := by
  by_cases h : '@' ∈ value.toList
  · simp [withDomain, h]
  · simp [withDomain, h]

namespace Attributes

variable {m : Attributes} {name : String}

/-- Two changes of the values of a name are one. -/
theorem modify_modify (m : Attributes) (name : String) (first second : List String → List String) :
    (m.modify name first).modify name second
      = m.modify name fun values => second (first values) := by
  rcases m with ⟨entries⟩
  simp only [modify, mk.injEq]
  induction entries with
  | nil => rfl
  | cons e rest ih =>
    by_cases he : e.1 = name
    · simp [updateFirst, he]
    · simp [updateFirst, he, ih]

/-- A change that has nothing to do the second time. -/
theorem modify_idem {change : List String → List String}
    (h : ∀ values, change (change values) = change values) (m : Attributes) (name : String) :
    (m.modify name change).modify name change = m.modify name change := by
  simp only [modify_modify, h]

/-- **Every filter is idempotent**: a renaming finds its name gone, a domain is not put behind a
domain, and a value that was replaced does not occur any more unless it replaces itself. -/
theorem Reachable.apply_idem (h : m.Reachable) (filter : AttributeFilter) :
    filter.apply (filter.apply m) = filter.apply m := by
  cases filter with
  | rename source target =>
    show (m.rename source target).rename source target = m.rename source target
    by_cases hne : source = target
    · rw [hne, rename_self]
    · exact rename_of_absent (get?_rename_source h.distinct hne) target
  | singleValue name =>
    refine modify_idem (fun values => ?_) m name
    rw [List.take_take, Nat.min_self]
  | scope name domain =>
    refine modify_idem (fun values => ?_) m name
    simp [withDomain_withDomain]
  | mapValue name source target =>
    refine modify_idem (fun values => ?_) m name
    rw [List.map_map]
    refine List.map_congr_left fun value _ => ?_
    by_cases hvalue : value = source
    · simp [hvalue]
    · simp [hvalue]
  | allow names => simp [AttributeFilter.apply]

/-- Filters of each kind that have something to do the first time. -/
theorem apply_idem_mail :
    ∃ m : Attributes, m.Reachable ∧
      ∀ filter ∈ [AttributeFilter.rename "mail" "contact", .singleValue "uid", .scope "uid" "e.org",
          .allow ["uid", "cn"], .mapValue "cn" "A" "B"],
        filter.apply m ≠ m ∧ filter.apply (filter.apply m) = filter.apply m := by
  let entries := [("mail", ["m"]), ("uid", ["u", "v"]), ("contact", ["c"]), ("cn", ["A"])]
  have hm : (Attributes.ofList entries).Reachable := .ofList entries
  refine ⟨.ofList entries, hm, fun filter hfilter => ⟨?_, hm.apply_idem filter⟩⟩
  revert filter
  decide

/-! ## Where names differ -/

/-- The entry of a name is changed, and so the entries are mapped. -/
theorem updateFirst_eq_map {change : AttributeEntry → AttributeEntry} {l : List AttributeEntry}
    (h : (l.map (·.1)).Nodup) :
    updateFirst name change l = l.map fun e => if e.1 = name then change e else e := by
  induction l with
  | nil => rfl
  | cons e rest ih =>
    rw [List.map_cons, List.nodup_cons] at h
    by_cases he : e.1 = name
    · have hrest : ∀ other ∈ rest, (if other.1 = name then change other else other) = other := by
        rintro other hother
        refine if_neg fun hname => h.1 ?_
        exact List.mem_map.mpr ⟨other, hother, hname.trans he.symm⟩
      rw [updateFirst, if_pos he, List.map_cons, if_pos he, List.map_congr_left hrest, List.map_id']
    · simp [updateFirst, he, ih h.2]

/-- The entry of a name is taken out, and so the entries are filtered. -/
theorem eraseP_eq_filter {l : List AttributeEntry} (h : (l.map (·.1)).Nodup) :
    (l.eraseP fun e => e.1 == name) = l.filter fun e => e.1 != name := by
  induction l with
  | nil => rfl
  | cons e rest ih =>
    rw [List.map_cons, List.nodup_cons] at h
    by_cases he : e.1 = name
    · have hrest : ∀ other ∈ rest, (other.1 != name) = true := by
        intro other hother
        rw [bne_iff_ne]
        rintro hname
        exact h.1 (List.mem_map.mpr ⟨other, hother, hname.trans he.symm⟩)
      simp [he, List.filter_eq_self.mpr hrest]
    · simp [he, ih h.2]

end Attributes

open Attributes

/-! ## A filter entry by entry -/

namespace AttributeFilter

variable {m : Attributes} {f g : AttributeFilter} {e changed : AttributeEntry}

/-- The names that a filter speaks of. -/
def mentioned : AttributeFilter → List String
  | rename source target => [source, target]
  | singleValue name => [name]
  | scope name _ => [name]
  | allow names => names
  | mapValue name _ _ => [name]

/-- A filter that leaves alone what it does not speak of. -/
def IsLocal : AttributeFilter → Prop
  | allow _ => False
  | _ => True

/-- What a filter makes of an entry of attributes, if it leaves anything of it. -/
def effect? (f : AttributeFilter) (m : Attributes) (e : AttributeEntry) : Option AttributeEntry :=
  match f with
  | rename source target =>
    if source = target then some e
    else
      match m.get? source, m.get? target with
      | none, _ => some e
      | some _, none => some (if e.1 = source then (target, e.2) else e)
      | some values, some _ =>
        if e.1 = source then none else some (if e.1 = target then (e.1, e.2 ++ values) else e)
  | singleValue name => some (if e.1 = name then (e.1, e.2.take 1) else e)
  | scope name domain => some (if e.1 = name then (e.1, e.2.map (withDomain domain)) else e)
  | allow names => if names.contains e.1 then some e else none
  | mapValue name source target =>
    some (if e.1 = name then (e.1, e.2.map fun v => if v = source then target else v) else e)

/-- New values for a name, entry by entry. -/
theorem entries_modify (h : m.Distinct) (name : String) (change : List String → List String) :
    (m.modify name change).entries
      = m.entries.filterMap fun e => some (if e.1 = name then (e.1, change e.2) else e) := by
  rw [Attributes.modify, updateFirst_eq_map h, List.filterMap_eq_map']

/-- A renaming, entry by entry. -/
theorem entries_rename (h : m.Distinct) (source target : String) :
    (m.rename source target).entries = m.entries.filterMap ((rename source target).effect? m) := by
  by_cases hne : source = target
  · have hkept : (rename source target).effect? m = some := by
      funext e
      simp [effect?, hne]
    rw [hkept, List.filterMap_some, hne, rename_self]
  cases hsource : m.get? source with
  | none =>
    have hkept : (rename source target).effect? m = some := by
      funext e
      simp [effect?, hsource]
    rw [hkept, List.filterMap_some, rename_of_absent hsource]
  | some values =>
    cases htarget : m.get? target with
    | none =>
      have hmoved : (rename source target).effect? m
          = fun e => some (if e.1 = source then (target, e.2) else e) := by
        funext e
        simp [effect?, hne, hsource, htarget]
      have hfree : m.contains target = false := by
        rw [contains_eq_isSome, htarget, Option.isSome_none]
      rw [hmoved, List.filterMap_eq_map', rename_of_free hne hsource hfree, updateFirst_eq_map h]
    | some kept =>
      have hheld : m.contains target = true := by
        rw [contains_eq_isSome, htarget, Option.isSome_some]
      rw [rename_of_present hne hsource hheld, entries_modify (h.erase source), Attributes.erase,
        eraseP_eq_filter h, List.filterMap_filter]
      refine List.filterMap_congr fun e _ => ?_
      by_cases he : e.1 = source
      · simp [effect?, hne, hsource, htarget, he]
      · simp [effect?, hne, hsource, htarget, he]

/-- **A filter works entry by entry.** -/
theorem entries_apply (h : m.Distinct) (f : AttributeFilter) :
    (f.apply m).entries = m.entries.filterMap (f.effect? m) := by
  cases f with
  | rename source target => exact entries_rename h source target
  | singleValue name => exact entries_modify h name _
  | scope name domain => exact entries_modify h name _
  | mapValue name source target => exact entries_modify h name _
  | allow names =>
    show (m.entries.filter fun e => names.contains e.1) = _
    rw [← List.filterMap_eq_filter]
    rfl

/-- Of attributes, a filter looks at the names it speaks of. -/
theorem effect?_congr {other : Attributes}
    (h : ∀ name ∈ f.mentioned, m.get? name = other.get? name) :
    f.effect? m = f.effect? other := by
  cases f with
  | rename source target =>
    funext e
    simp only [effect?, h source (by simp [mentioned]), h target (by simp [mentioned])]
  | singleValue name => rfl
  | scope name domain => rfl
  | mapValue name source target => rfl
  | allow names => rfl

/-- An entry of a name that a filter does not speak of is left as it is. -/
theorem effect?_of_notMem (hf : f.IsLocal) (h : e.1 ∉ f.mentioned) : f.effect? m e = some e := by
  cases f with
  | rename source target =>
    simp only [mentioned, List.mem_cons, List.not_mem_nil, or_false, not_or] at h
    simp only [effect?]
    split
    · rfl
    · split <;> simp [h]
  | singleValue name => simp_all [effect?, mentioned]
  | scope name domain => simp_all [effect?, mentioned]
  | mapValue name source target => simp_all [effect?, mentioned]
  | allow names => exact hf.elim

/-- An entry of a name that a filter speaks of has such a name afterwards. -/
theorem mem_of_effect? (h : e.1 ∈ f.mentioned) (hchanged : f.effect? m e = some changed) :
    changed.1 ∈ f.mentioned := by
  have hvalues : ∀ {name : String} {values : List String},
      some (if e.1 = name then (e.1, values) else e) = some changed → changed.1 = e.1 := by
    intro name values hsome
    split at hsome <;> cases hsome <;> rfl
  cases f with
  | rename source target =>
    simp only [effect?] at hchanged
    split at hchanged
    · cases hchanged
      exact h
    · split at hchanged
      · cases hchanged
        exact h
      · split at hchanged <;> cases hchanged
        · simp [mentioned]
        · exact h
      · split at hchanged
        · cases hchanged
        · rwa [hvalues hchanged]
  | singleValue name => rwa [hvalues hchanged]
  | scope name domain => rwa [hvalues hchanged]
  | mapValue name source target => rwa [hvalues hchanged]
  | allow names =>
    simp only [effect?] at hchanged
    split at hchanged <;> cases hchanged
    exact h

/-- The values of a name that a filter does not speak of are left as they are. -/
theorem get?_apply_of_notMem (hf : f.IsLocal) {name : String} (h : name ∉ f.mentioned) :
    (f.apply m).get? name = m.get? name := by
  cases f with
  | rename source target =>
    simp only [mentioned, List.mem_cons, List.not_mem_nil, or_false, not_or] at h
    by_cases hne : source = target
    · rw [apply, hne, rename_self]
    · exact get?_rename_of_ne hne h.1 h.2 m
  | singleValue other => exact get?_modify_of_ne (by simpa [mentioned] using h) m _
  | scope other domain => exact get?_modify_of_ne (by simpa [mentioned] using h) m _
  | mapValue other source target => exact get?_modify_of_ne (by simpa [mentioned] using h) m _
  | allow names => exact hf.elim

/-- An entry that one of two filters speaks of is what it makes of it, in whichever order. -/
theorem bind_effect?_of_mem (hg : g.IsLocal) (h : ∀ name ∈ f.mentioned, name ∉ g.mentioned)
    (he : e.1 ∈ f.mentioned) :
    (f.effect? m e).bind (g.effect? m) = (g.effect? m e).bind (f.effect? m) := by
  rw [effect?_of_notMem hg (h e.1 he), Option.bind_some]
  cases hchanged : f.effect? m e with
  | none => rfl
  | some changed => exact effect?_of_notMem hg (h changed.1 (mem_of_effect? he hchanged))

/-- **Filters that speak of different names do not see each other's work.** -/
theorem apply_comm_of_disjoint (hm : m.Distinct) (hf : f.IsLocal) (hg : g.IsLocal)
    (h : ∀ name ∈ f.mentioned, name ∉ g.mentioned) :
    f.apply (g.apply m) = g.apply (f.apply m) := by
  have h' : ∀ name ∈ g.mentioned, name ∉ f.mentioned := fun name hg hf => h name hf hg
  have hfg : f.effect? (g.apply m) = f.effect? m :=
    effect?_congr fun name hname => get?_apply_of_notMem hg (h name hname)
  have hgf : g.effect? (f.apply m) = g.effect? m :=
    effect?_congr fun name hname => get?_apply_of_notMem hf (h' name hname)
  suffices hentries : (f.apply (g.apply m)).entries = (g.apply (f.apply m)).entries from
    congrArg Attributes.mk hentries
  rw [entries_apply (g.distinct_apply hm), entries_apply (f.distinct_apply hm), entries_apply hm,
    entries_apply hm, hfg, hgf, List.filterMap_filterMap, List.filterMap_filterMap]
  refine List.filterMap_congr fun e _ => ?_
  by_cases hmem : e.1 ∈ f.mentioned
  · exact (bind_effect?_of_mem hg h hmem).symm
  by_cases hmem' : e.1 ∈ g.mentioned
  · exact bind_effect?_of_mem hf h' hmem'
  · rw [effect?_of_notMem hf hmem, effect?_of_notMem hg hmem', Option.bind_some, Option.bind_some,
      effect?_of_notMem hf hmem, effect?_of_notMem hg hmem']

theorem effect?_allow_of_mem {names : List String} (h : e.1 ∈ names) (m : Attributes) :
    (allow names).effect? m e = some e := by
  simp [effect?, h]

theorem effect?_allow_of_notMem {names : List String} (h : e.1 ∉ names) (m : Attributes) :
    (allow names).effect? m e = none := by
  simp [effect?, h]

/-- What is allowed has the values it had. -/
theorem get?_apply_allow {names : List String} {name : String} (h : name ∈ names) (m : Attributes) :
    ((allow names).apply m).get? name = m.get? name := by
  have hlisted : (fun e : AttributeEntry =>
        decide (names.contains e.1 = true ∧ (e.1 == name) = true)) = fun e => e.1 == name := by
    funext e
    by_cases he : e.1 = name
    · simp [he, h]
    · simp [he]
  rw [apply, Attributes.get?, List.find?_filter, hlisted, Attributes.get?]

/-- **Allowing names changes places with a filter that speaks of allowed names only**, or of
none. -/
theorem apply_comm_allow (hm : m.Distinct) (hf : f.IsLocal) {names : List String}
    (h : (∀ name ∈ f.mentioned, name ∈ names) ∨ ∀ name ∈ f.mentioned, name ∉ names) :
    (allow names).apply (f.apply m) = f.apply ((allow names).apply m) := by
  suffices hentries : ((allow names).apply (f.apply m)).entries
      = (f.apply ((allow names).apply m)).entries from congrArg Attributes.mk hentries
  rw [entries_apply (f.distinct_apply hm), entries_apply (distinct_apply _ hm), entries_apply hm,
    entries_apply hm, List.filterMap_filterMap, List.filterMap_filterMap]
  refine List.filterMap_congr fun e _ => ?_
  by_cases he : e.1 ∈ f.mentioned
  · obtain hlisted | hunlisted := h
    · have hcongr : f.effect? ((allow names).apply m) = f.effect? m :=
        effect?_congr fun name hname => get?_apply_allow (hlisted name hname) m
      rw [effect?_allow_of_mem (hlisted e.1 he), Option.bind_some, hcongr]
      cases hchanged : f.effect? m e with
      | none => rfl
      | some changed =>
        exact effect?_allow_of_mem (hlisted changed.1 (mem_of_effect? he hchanged)) m
    · rw [effect?_allow_of_notMem (hunlisted e.1 he), Option.bind_none]
      cases hchanged : f.effect? m e with
      | none => rfl
      | some changed =>
        exact effect?_allow_of_notMem (hunlisted changed.1 (mem_of_effect? he hchanged)) m
  · rw [effect?_of_notMem hf he, Option.bind_some]
    by_cases hmem : e.1 ∈ names
    · rw [effect?_allow_of_mem hmem, effect?_allow_of_mem hmem, Option.bind_some,
        effect?_of_notMem hf he]
    · rw [effect?_allow_of_notMem hmem, effect?_allow_of_notMem hmem, Option.bind_none]

/-! ## Lists of filters -/

/-- Filters that change places. -/
inductive Swappable : AttributeFilter → AttributeFilter → Prop where
  /-- Neither allows names, and they speak of different ones. -/
  | disjoint {f g : AttributeFilter} (hf : f.IsLocal) (hg : g.IsLocal)
      (h : ∀ name ∈ f.mentioned, name ∉ g.mentioned) : Swappable f g
  /-- Names are allowed, and a list of values is cut short. -/
  | allowSingleValue (names : List String) (name : String) :
      Swappable (allow names) (singleValue name)
  /-- Names are allowed, and a domain is put behind values. -/
  | allowScope (names : List String) (name domain : String) :
      Swappable (allow names) (scope name domain)
  /-- Names are allowed, and a value is replaced. -/
  | allowMapValue (names : List String) (name source target : String) :
      Swappable (allow names) (mapValue name source target)
  /-- Names are allowed, and a renaming is between two of them or between two others. -/
  | allowRename (names : List String) (source target : String)
      (h : source ∈ names ↔ target ∈ names) : Swappable (allow names) (rename source target)

/-- **Filters that change places come to the same.** -/
theorem Swappable.apply_comm (h : Swappable f g) (hm : m.Distinct) :
    f.apply (g.apply m) = g.apply (f.apply m) := by
  cases h with
  | disjoint hf hg h => exact apply_comm_of_disjoint hm hf hg h
  | allowSingleValue names name =>
    refine apply_comm_allow (f := singleValue name) hm trivial ?_
    simpa [mentioned] using Classical.em _
  | allowScope names name domain =>
    refine apply_comm_allow (f := scope name domain) hm trivial ?_
    simpa [mentioned] using Classical.em _
  | allowMapValue names name source target =>
    refine apply_comm_allow (f := mapValue name source target) hm trivial ?_
    simpa [mentioned] using Classical.em _
  | allowRename names source target h =>
    refine apply_comm_allow (f := rename source target) hm trivial ?_
    by_cases hsource : source ∈ names
    · exact Or.inl (by simp [mentioned, hsource, h.mp hsource])
    · exact Or.inr (by simp [mentioned, hsource, mt h.mpr hsource])

end AttributeFilter

open AttributeFilter

/-- Lists of filters that differ by swaps of neighbours. -/
inductive Reordering : List AttributeFilter → List AttributeFilter → Prop where
  /-- The list as it is. -/
  | refl (filters : List AttributeFilter) : Reordering filters filters
  /-- Two neighbours change places. -/
  | swap (before : List AttributeFilter) {f g : AttributeFilter} (after : List AttributeFilter)
      (h : Swappable f g ∨ Swappable g f) :
      Reordering (before ++ f :: g :: after) (before ++ g :: f :: after)
  /-- One swap after the other. -/
  | trans {first second third : List AttributeFilter} (h : Reordering first second)
      (h' : Reordering second third) : Reordering first third

/-- All filters together keep one entry for a name. -/
theorem distinct_applyFilters (filters : List AttributeFilter) {m : Attributes} (h : m.Distinct) :
    (applyFilters filters m).Distinct := by
  induction filters generalizing m with
  | nil => exact h
  | cons filter rest ih => exact ih (filter.distinct_apply h)

/-- A reordering comes to the same, by induction on its swaps: the attributes before each of them
have one entry for a name. -/
theorem Reordering.applyFilters_eq {filters others : List AttributeFilter}
    (h : Reordering filters others) {m : Attributes} (hm : m.Distinct) :
    applyFilters filters m = applyFilters others m := by
  induction h with
  | refl filters => rfl
  | @swap before f g after h =>
    rw [applyFilters_append, applyFilters_append]
    show applyFilters after (g.apply (f.apply (applyFilters before m)))
      = applyFilters after (f.apply (g.apply (applyFilters before m)))
    have hbefore := distinct_applyFilters before hm
    obtain h | h := h
    · rw [h.apply_comm hbefore]
    · rw [h.apply_comm hbefore]
  | trans _ _ ih ih' => exact ih.trans ih'

theorem Directory.mem_of_identity? {d : Directory} {key : String} {record : IdentityRecord}
    (h : d.identity? key = some record) : record ∈ d.identities := by
  obtain ⟨place, -, hplace⟩ := Option.bind_eq_some_iff.mp h
  exact List.mem_of_getElem? hplace

/-- Policies that differ by a reordering resolve every user to the same. -/
theorem Reordering.resolve_eq {filters others : List AttributeFilter}
    (h : Reordering filters others) {directory : Directory}
    (hdirectory : ∀ record ∈ directory.identities, record.attributes.Reachable) (key : String) :
    (Resolver.mk directory filters).resolve key = (Resolver.mk directory others).resolve key := by
  rw [Resolver.resolve, Resolver.resolve]
  cases hrecord : directory.identity? key with
  | none => rfl
  | some record =>
    have hm := hdirectory record (Directory.mem_of_identity? hrecord)
    simp only [h.applyFilters_eq hm.distinct]

/-- **The order of independent filters makes no difference.**  Filters that change places come to
the same on whatever attributes there can be, and policies that differ by such swaps resolve every
user of a directory to the same, what is released included. -/
theorem independent_filters_commute :
    (∀ (f g : AttributeFilter) (m : Attributes), Swappable f g → m.Reachable →
        f.apply (g.apply m) = g.apply (f.apply m)) ∧
      ∀ (filters others : List AttributeFilter), Reordering filters others →
        ∀ directory : Directory,
          (∀ record ∈ directory.identities, record.attributes.Reachable) →
          ∀ key, (Resolver.mk directory filters).resolve key
            = (Resolver.mk directory others).resolve key := by
  constructor
  · intro f g m h hm
    exact h.apply_comm hm.distinct
  · intro filters others h directory hdirectory key
    exact h.resolve_eq hdirectory key

/-- A renaming that moves a later entry up, a cut and an allowance, in two orders. -/
theorem independent_filters_commute_mail :
    ∃ (m : Attributes) (directory : Directory),
      m.Reachable ∧ (∀ record ∈ directory.identities, record.attributes.Reachable) ∧
      Swappable (.rename "mail" "contact") (.singleValue "uid") ∧
      Reordering [.rename "mail" "contact", .singleValue "uid", .allow ["uid", "cn"]]
        [.singleValue "uid", .allow ["uid", "cn"], .rename "mail" "contact"] ∧
      (AttributeFilter.rename "mail" "contact").apply ((AttributeFilter.singleValue "uid").apply m)
        = (AttributeFilter.singleValue "uid").apply
          ((AttributeFilter.rename "mail" "contact").apply m) ∧
      ∀ key,
        (Resolver.mk directory
          [.rename "mail" "contact", .singleValue "uid", .allow ["uid", "cn"]]).resolve key
        = (Resolver.mk directory
          [.singleValue "uid", .allow ["uid", "cn"], .rename "mail" "contact"]).resolve key := by
  have hm := Attributes.Reachable.ofList
    [("mail", ["m"]), ("uid", ["u", "v"]), ("contact", ["c"]), ("cn", ["A"])]
  have hfirst : Swappable (.rename "mail" "contact") (.singleValue "uid") :=
    .disjoint trivial trivial (by decide)
  have hsecond : Swappable (.allow ["uid", "cn"]) (.rename "mail" "contact") :=
    .allowRename _ _ _ (by decide)
  have hreorder : Reordering [.rename "mail" "contact", .singleValue "uid", .allow ["uid", "cn"]]
      [.singleValue "uid", .allow ["uid", "cn"], .rename "mail" "contact"] :=
    .trans (.swap [] [.allow ["uid", "cn"]] (.inl hfirst))
      (.swap [.singleValue "uid"] [] (.inr hsecond))
  have hrecords : ∀ record ∈ [IdentityRecord.mk "a:1" (.ofList
      [("mail", ["m"]), ("uid", ["u", "v"]), ("contact", ["c"]), ("cn", ["A"])])],
      record.attributes.Reachable := by
    intro record hrecord
    rw [List.mem_singleton.mp hrecord]
    exact hm
  exact ⟨_, { identities := _, serviceProviders := [] }, hm, hrecords, hfirst, hreorder,
    independent_filters_commute.1 _ _ _ hfirst hm,
    independent_filters_commute.2 _ _ hreorder { identities := _, serviceProviders := [] } hrecords⟩

end WebSso
