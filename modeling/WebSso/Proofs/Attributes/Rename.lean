import WebSso.Proofs.Attributes.Regular
import WebSso.Proofs.Attributes.Withheld

/-!
# What a renaming does

A renaming takes an entry out of the attributes and brings it back under another name, and it is
easy to get the places wrong: where the new name is there already, taking the old entry out moves
everything behind it, and the values have to go to the entry that was meant and not to its
neighbour.  Here the result is told entry by entry, for both orders in which the two may stand.

## What is here

* `Attributes.updateFirst_of_split` and `Attributes.erase_of_split`, a change of the one entry of a
  name, wherever it stands;
* `Attributes.rename_of_alone`, `rename_of_before` and `rename_of_after`, the entries after a
  renaming, and `Attributes.rename_at`, the same by position;
* `Attributes.without_rename_both`, that nothing else is touched, and
  `Attributes.valueCount_rename`, that no value is lost or doubled;
* `Attributes.Reachable.renamed`, all of it for whatever attributes there can be.
-/

set_option autoImplicit false
namespace WebSso
namespace Attributes

variable {m : Attributes} {name source target : String} {before middle after : List AttributeEntry}
  {values kept : List String}

/-! ## The one entry of a name -/

theorem get?_eq_none_iff : m.get? name = none ↔ name ∉ m.names := by
  simp only [get?, names, Option.map_eq_none_iff, List.find?_eq_none, List.mem_map, beq_iff_eq,
    not_exists, not_and]

theorem contains_eq_isSome (m : Attributes) (name : String) :
    m.contains name = (m.get? name).isSome := by
  rw [contains, get?, Option.isSome_map, List.isSome_find?]

/-- Where names differ, none of the entries around one has its name. -/
theorem Distinct.ne_of_split (h : m.Distinct)
    (hsplit : m.entries = before ++ (name, values) :: after) :
    (∀ e ∈ before, e.1 ≠ name) ∧ ∀ e ∈ after, e.1 ≠ name := by
  rw [Distinct, names, hsplit, List.map_append, List.map_cons] at h
  obtain ⟨-, hafter, hbefore⟩ := List.nodup_append.mp h
  constructor
  · intro e he
    exact hbefore e.1 (List.mem_map_of_mem he) name List.mem_cons_self
  · intro e he hname
    exact (List.nodup_cons.mp hafter).1 (List.mem_map.mpr ⟨e, he, hname⟩)

/-- The values of a name are those of its entry. -/
theorem get?_of_split (hbefore : ∀ e ∈ before, e.1 ≠ name)
    (hsplit : m.entries = before ++ (name, values) :: after) : m.get? name = some values := by
  have hnone : (before.find? fun e => e.1 == name) = none := by
    simpa using hbefore
  simp [get?, hsplit, List.find?_append, hnone]

/-- A name that is there has an entry somewhere. -/
theorem exists_split (h : name ∈ m.names) :
    ∃ before values after, m.entries = before ++ (name, values) :: after := by
  obtain ⟨⟨_, values⟩, he, rfl⟩ := List.mem_map.mp h
  obtain ⟨before, after, hsplit⟩ := List.append_of_mem he
  exact ⟨before, values, after, hsplit⟩

/-- The first entry of a name is changed where it stands. -/
theorem updateFirst_of_split {change : AttributeEntry → AttributeEntry}
    (hbefore : ∀ e ∈ before, e.1 ≠ name) :
    updateFirst name change (before ++ (name, values) :: after)
      = before ++ change (name, values) :: after := by
  induction before with
  | nil => simp [updateFirst]
  | cons e rest ih =>
    obtain ⟨he, hrest⟩ := List.forall_mem_cons.mp hbefore
    simp [updateFirst, he, ih hrest]

/-- The first entry of a name is taken out, and the others stay. -/
theorem erase_of_split (hbefore : ∀ e ∈ before, e.1 ≠ name)
    (hsplit : m.entries = before ++ (name, values) :: after) :
    m.erase name = ⟨before ++ after⟩ := by
  have hskip : ∀ e ∈ before, ¬ (e.1 == name) = true := by
    simpa using hbefore
  simp [erase, hsplit, List.eraseP_append_right _ hskip]

/-! ## The entries after a renaming -/

/-- The new name is free: the entry takes it and stays where it is. -/
theorem rename_of_alone (h : m.Distinct) (hne : source ≠ target)
    (hsplit : m.entries = before ++ (source, values) :: after) (hfree : target ∉ m.names) :
    (m.rename source target).entries = before ++ (target, values) :: after := by
  have hbefore := (h.ne_of_split hsplit).1
  have hcontains : m.contains target = false := by
    rwa [← Bool.not_eq_true, contains_iff]
  rw [rename_of_free hne (get?_of_split hbefore hsplit) hcontains, hsplit,
    updateFirst_of_split hbefore]

/-- The entry stands before that of the new name, which moves up by one place. -/
theorem rename_of_before (h : m.Distinct) (hne : source ≠ target)
    (hsplit : m.entries = before ++ (source, values) :: (middle ++ (target, kept) :: after)) :
    (m.rename source target).entries = before ++ (middle ++ (target, kept ++ values) :: after) := by
  have hsource := (h.ne_of_split hsplit).1
  have hsplit' : m.entries = (before ++ (source, values) :: middle) ++ (target, kept) :: after := by
    simp [hsplit]
  have htarget := (h.ne_of_split hsplit').1
  have hcontains : m.contains target = true := by
    simp [contains, hsplit]
  have hskip : ∀ e ∈ before ++ middle, e.1 ≠ target := by
    intro e he
    exact htarget e (by simpa using Or.imp_right Or.inr (List.mem_append.mp he))
  rw [rename_of_present hne (get?_of_split hsource hsplit) hcontains,
    erase_of_split hsource hsplit, modify, ← List.append_assoc, updateFirst_of_split hskip,
    List.append_assoc]

/-- The entry stands behind that of the new name, which keeps its place. -/
theorem rename_of_after (h : m.Distinct) (hne : source ≠ target)
    (hsplit : m.entries = before ++ (target, kept) :: (middle ++ (source, values) :: after)) :
    (m.rename source target).entries = before ++ (target, kept ++ values) :: (middle ++ after) := by
  have htarget := (h.ne_of_split hsplit).1
  have hsplit' : m.entries = (before ++ (target, kept) :: middle) ++ (source, values) :: after := by
    simp [hsplit]
  have hsource := (h.ne_of_split hsplit').1
  have hcontains : m.contains target = true := by
    simp [contains, hsplit]
  rw [rename_of_present hne (get?_of_split hsource hsplit') hcontains,
    erase_of_split hsource hsplit', modify, List.append_assoc, List.cons_append,
    updateFirst_of_split htarget]

/-- Two names that are there stand in one order or in the other. -/
theorem exists_split_both (hne : source ≠ target) (hsource : source ∈ m.names)
    (htarget : target ∈ m.names) :
    (∃ before values middle kept after,
        m.entries = before ++ (source, values) :: (middle ++ (target, kept) :: after)) ∨
      ∃ before kept middle values after,
        m.entries = before ++ (target, kept) :: (middle ++ (source, values) :: after) := by
  obtain ⟨before, values, after, hsplit⟩ := exists_split hsource
  obtain ⟨⟨_, kept⟩, he, rfl⟩ := List.mem_map.mp htarget
  rw [hsplit, List.mem_append, List.mem_cons] at he
  obtain hbefore | heq | hafter := he
  · obtain ⟨front, middle, rfl⟩ := List.append_of_mem hbefore
    exact Or.inr ⟨front, kept, middle, values, after, by simp [hsplit]⟩
  · cases heq
    exact absurd rfl hne
  · obtain ⟨middle, back, rfl⟩ := List.append_of_mem hafter
    exact Or.inl ⟨before, values, middle, kept, back, hsplit⟩

/-! ## The same by position -/

/-- What stands before an entry and behind it. -/
theorem exists_split_at {l : List AttributeEntry} {place : Nat} {e : AttributeEntry}
    (h : l[place]? = some e) :
    ∃ before after, l = before ++ e :: after ∧ before.length = place := by
  obtain ⟨hplace, rfl⟩ := List.getElem?_eq_some_iff.mp h
  refine ⟨l.take place, l.drop (place + 1), ?_, ?_⟩
  · rw [List.getElem_cons_drop, List.take_append_drop]
  · rw [List.length_take, Nat.min_eq_left (Nat.le_of_lt hplace)]

/-- **Taking an entry out moves up those behind it**: the new name is found one place earlier if the
old one stood before it, and at its own place if not. -/
theorem rename_at (h : m.Distinct) (hne : source ≠ target) {old new : Nat}
    (hold : m.entries[old]? = some (source, values))
    (hnew : m.entries[new]? = some (target, kept)) :
    (m.rename source target).entries = (m.entries.eraseIdx old).set
      (if old < new then new - 1 else new) (target, kept ++ values) := by
  obtain ⟨before, after, hsplit, rfl⟩ := exists_split_at hold
  have hsource := (h.ne_of_split hsplit).1
  have herase : m.entries.eraseIdx before.length = before ++ after := by
    simp [hsplit, List.eraseIdx_append_of_length_le]
  have hcontains : m.contains target = true :=
    contains_iff.mpr (List.mem_map.mpr ⟨_, List.mem_of_getElem? hnew, rfl⟩)
  -- where the new name is found once the old entry is out
  have hmoved : (before ++ after)[if before.length < new then new - 1 else new]?
      = some (target, kept) := by
    have hplaces : new ≠ before.length := by
      rintro rfl
      rw [hold] at hnew
      cases hnew
      exact hne rfl
    rw [← herase, List.getElem?_eraseIdx]
    by_cases hlt : before.length < new
    · rw [if_pos hlt, if_neg (by omega), Nat.sub_add_cancel (by omega), hnew]
    · rw [if_neg hlt, if_pos (by omega), hnew]
  obtain ⟨front, back, hrest, hplace⟩ := exists_split_at hmoved
  have hfront : ∀ e ∈ front, e.1 ≠ target := by
    have hdistinct : (m.erase source).Distinct := h.erase source
    rw [erase_of_split hsource hsplit, hrest] at hdistinct
    exact (hdistinct.ne_of_split rfl).1
  rw [rename_of_present hne (get?_of_split hsource hsplit) hcontains, erase_of_split hsource hsplit,
    herase, modify, hrest, updateFirst_of_split hfront, ← hplace]
  simp

/-! ## All else -/

/-- The entries of all names but two. -/
theorem without_rename_both (hne : source ≠ target) (m : Attributes) :
    ((m.rename source target).without target).without source
      = (m.without target).without source := by
  rw [without_rename_to hne, without_erase_self]

/-- New values for a name are not those of another. -/
theorem get?_modify_of_ne {other : String} (h : name ≠ other) (m : Attributes)
    (change : List String → List String) : (m.modify other change).get? name = m.get? name := by
  rw [← get?_without h, without_modify_self, get?_without h]

/-- No name but the two is looked up differently. -/
theorem get?_rename_of_ne (hne : source ≠ target) (hsource : name ≠ source)
    (htarget : name ≠ target) (m : Attributes) :
    (m.rename source target).get? name = m.get? name := by
  rw [← get?_without htarget, ← get?_without hsource, without_rename_both hne,
    get?_without hsource, get?_without htarget]

/-- The old name is gone. -/
theorem get?_rename_source (h : m.Distinct) (hne : source ≠ target) :
    (m.rename source target).get? source = none := by
  rw [get?_eq_none_iff]
  by_cases hsource : source ∈ m.names
  · obtain ⟨before, values, after, hsplit⟩ := exists_split hsource
    obtain ⟨hbefore, hafter⟩ := h.ne_of_split hsplit
    have hget := get?_of_split hbefore hsplit
    by_cases htarget : target ∈ m.names
    · rw [rename_of_present hne hget (contains_iff.mpr htarget), names_modify, names_erase]
      exact List.Nodup.not_mem_erase h
    · rw [names, rename_of_alone h hne hsplit htarget]
      intro hmem
      simp only [List.map_append, List.map_cons, List.mem_append, List.mem_cons,
        List.mem_map] at hmem
      obtain ⟨e, he, hname⟩ | htarget | ⟨e, he, hname⟩ := hmem
      · exact hbefore e he hname
      · exact hne htarget
      · exact hafter e he hname
  · rwa [rename_of_absent (get?_eq_none_iff.mpr hsource)]

/-- The number of all values. -/
def valueCount (m : Attributes) : Nat := (m.entries.map fun e => e.2.length).sum

/-- **No value is lost or doubled.** -/
theorem valueCount_rename (h : m.Distinct) (source target : String) :
    (m.rename source target).valueCount = m.valueCount := by
  by_cases hne : source = target
  · rw [hne, rename_self]
  by_cases hsource : source ∈ m.names
  · by_cases htarget : target ∈ m.names
    · obtain ⟨before, values, middle, kept, after, hsplit⟩ |
          ⟨before, kept, middle, values, after, hsplit⟩ :=
        exists_split_both hne hsource htarget
      · simp only [valueCount, rename_of_before h hne hsplit, hsplit]
        simp; omega
      · simp only [valueCount, rename_of_after h hne hsplit, hsplit]
        simp; omega
    · obtain ⟨before, values, after, hsplit⟩ := exists_split hsource
      simp [valueCount, rename_of_alone h hne hsplit htarget, hsplit]
  · rw [rename_of_absent (get?_eq_none_iff.mpr hsource)]

/-! ## A renaming -/

/-- What a renaming makes of attributes. -/
structure Renamed (source target : String) (m renamed : Attributes) : Prop where
  /-- There is nothing to rename. -/
  absent : source ∉ m.names → renamed = m
  /-- The new name is free, and the entry takes it where it stands. -/
  alone : ∀ before values after, m.entries = before ++ (source, values) :: after →
    target ∉ m.names → renamed.entries = before ++ (target, values) :: after
  /-- The entry is merged into one behind it. -/
  before : ∀ before values middle kept after,
    m.entries = before ++ (source, values) :: (middle ++ (target, kept) :: after) →
    renamed.entries = before ++ (middle ++ (target, kept ++ values) :: after)
  /-- The entry is merged into one before it. -/
  after : ∀ before kept middle values after,
    m.entries = before ++ (target, kept) :: (middle ++ (source, values) :: after) →
    renamed.entries = before ++ (target, kept ++ values) :: (middle ++ after)
  /-- The same by position: what stands behind the old entry moves up. -/
  place : ∀ old new values kept, m.entries[old]? = some (source, values) →
    m.entries[new]? = some (target, kept) →
    renamed.entries = (m.entries.eraseIdx old).set (if old < new then new - 1 else new)
      (target, kept ++ values)
  /-- The old name is gone. -/
  gone : renamed.get? source = none
  /-- Other names have the values they had. -/
  others : ∀ name, name ≠ source → name ≠ target → renamed.get? name = m.get? name
  /-- Other entries stand in the order they had. -/
  order : (renamed.without target).without source = (m.without target).without source
  /-- There are as many values as there were. -/
  count : renamed.valueCount = m.valueCount

/-- **A renaming loses, doubles and moves nothing.**  Of whatever attributes there can be, those
after a renaming are the ones before it with the one name changed where it stands, or with the
values put behind those of the new name at its place, on whichever side of it they stood. -/
theorem Reachable.renamed (h : m.Reachable) (source target : String) :
    (source ≠ target → Renamed source target m ((AttributeFilter.rename source target).apply m)) ∧
      (AttributeFilter.rename source source).apply m = m := by
  refine ⟨fun hne => ?_, rename_self m source⟩
  have hdistinct := h.distinct
  constructor
  case absent =>
    intro hsource
    exact rename_of_absent (get?_eq_none_iff.mpr hsource) target
  case alone =>
    intro before values after hsplit hfree
    exact rename_of_alone hdistinct hne hsplit hfree
  case before =>
    intro before values middle kept after hsplit
    exact rename_of_before hdistinct hne hsplit
  case after =>
    intro before kept middle values after hsplit
    exact rename_of_after hdistinct hne hsplit
  case place =>
    intro old new values kept hold hnew
    exact rename_at hdistinct hne hold hnew
  case gone => exact get?_rename_source hdistinct hne
  case others =>
    intro name hsource htarget
    exact get?_rename_of_ne hne hsource htarget m
  case order => exact without_rename_both hne m
  case count => exact valueCount_rename hdistinct source target

/-- An address that is renamed to a name behind it, between others. -/
theorem renamed_mail_to_contact :
    ∃ m : Attributes, m.Reachable ∧ "mail" ≠ "contact" ∧
      m.entries = [("mail", ["m"]), ("cn", ["A"]), ("contact", ["c"]), ("uid", ["u"])] ∧
      Renamed "mail" "contact" m ((AttributeFilter.rename "mail" "contact").apply m) ∧
      ((AttributeFilter.rename "mail" "contact").apply m).entries
        = [("cn", ["A"]), ("contact", ["c", "m"]), ("uid", ["u"])] := by
  have hreachable := Reachable.ofList
    [("mail", ["m"]), ("cn", ["A"]), ("contact", ["c"]), ("uid", ["u"])]
  have hne : "mail" ≠ "contact" := by decide
  exact ⟨_, hreachable, hne, by decide, (hreachable.renamed "mail" "contact").1 hne, by decide⟩

end Attributes
end WebSso
