import Mathlib.Data.List.Forall2
import Mathlib.Data.List.Nodup
import WebSso.Json.Read

/-!
# What a record says of one of its fields

A record is read member by member, or field by field where it is written as a list, and every step
stores one value.  To say what became of one field it is enough to know which steps touch it: here a
field of a record that was read is what its reader makes of the one place where the document speaks
of it, or what it was at the start if there is no such place.

## What is here

* `Json.forall₂_of_mapM`, a list that was read, item by item;
* `Json.member?`, the place where a document speaks of a field;
* `Json.Keeps`, that a field is stored by its own reader and by no other, with `Json.Keeps.of_mem`;
* `Json.get_of_readRecord`: the field of a record is what the document says of it.
-/

set_option autoImplicit false
namespace WebSso
namespace Json

/-! ## Lists -/

/-- A list is read in its order. -/
theorem forall₂_of_mapM {ε α β : Type} {f : α → Except ε β} {items : List α} {read : List β}
    (h : items.mapM f = .ok read) : List.Forall₂ (fun item a => f item = .ok a) items read := by
  induction items generalizing read with
  | nil =>
    cases h
    exact .nil
  | cons item items ih =>
    rw [List.mapM_cons] at h
    cases hitem : f item with
    | error e => rw [hitem] at h; cases h
    | ok a =>
      cases hitems : items.mapM f with
      | error e => rw [hitem, hitems] at h; cases h
      | ok rest =>
        rw [hitem, hitems] at h
        cases h
        exact .cons hitem (ih hitems)

/-! ## Records -/

variable {σ α : Type} {fields : List (FieldReader σ)} {name : String}

/-- Where a document speaks of the field of a name: the first member of that name, or the item that
stands where the field does. -/
def member? (fields : List (FieldReader σ)) (name : String) : Document → Option Document
  | .object members => (members.find? fun entry => entry.1 == name).map (·.2)
  | .array items => items[fields.findIdx fun f => f.name == name]?
  | _ => none

/-- A field of a record that is stored by the reader of its name and by no other. -/
structure Keeps (fields : List (FieldReader σ)) (name : String) (read : Reader α) (get : σ → α) :
    Prop where
  /-- Its own reader stores what it read. -/
  own : ∀ f ∈ fields, f.name = name → ∀ d record next, f.set d record = .ok next →
    read d = .ok (get next)
  /-- The others leave it as it is. -/
  other : ∀ f ∈ fields, f.name ≠ name → ∀ d record next, f.set d record = .ok next →
    get next = get record

theorem set_field_eq_ok_iff {required : Bool} {read : Reader α} {store : α → σ → σ} {d : Document}
    {record next : σ} :
    (field name required read store).set d record = .ok next ↔
      ∃ a, read d = .ok a ∧ next = store a record := by
  change (read d).map (fun a => store a record) = .ok next ↔ _
  cases read d with
  | error e => exact ⟨nofun, nofun⟩
  | ok a =>
    constructor
    · intro h
      cases h
      exact ⟨a, rfl, rfl⟩
    · rintro ⟨a', ha, rfl⟩
      cases ha
      rfl

variable {read : Reader α} {get : σ → α} {record result : σ}

/-- A reader that stores elsewhere leaves the field as it is. -/
theorem get_of_set_field (get : σ → α) {β : Type} {required : Bool} {readOther : Reader β}
    {store : β → σ → σ} {d : Document} {next : σ}
    (h : (field name required readOther store).set d record = .ok next)
    (hstore : ∀ b record, get (store b record) = get record) : get next = get record := by
  obtain ⟨b, -, rfl⟩ := set_field_eq_ok_iff.1 h
  exact hstore b record

/-- A field is kept if the reader of its name stores it and the others do not. -/
theorem Keeps.of_mem {required : Bool} {store : α → σ → σ} (hnodup : (fields.map (·.name)).Nodup)
    (hmem : field name required read store ∈ fields)
    (hstore : ∀ a record, get (store a record) = a)
    (hother : ∀ f ∈ fields, f.name ≠ name → ∀ d record next, f.set d record = .ok next →
      get next = get record) : Keeps fields name read get where
  own f hf hname d record next h := by
    obtain rfl : f = field name required read store :=
      List.inj_on_of_nodup_map hnodup hf hmem hname
    obtain ⟨a, ha, rfl⟩ := set_field_eq_ok_iff.1 h
    rw [hstore, ha]
  other := hother

/-- What is left to be read does not speak of the field. -/
theorem get_of_readMembers_of_mem (hkeeps : Keeps fields name read get)
    {members : List (String × Document)} {seen seen' : List String} (hseen : name ∈ seen)
    (h : readMembers true fields seen record members = .ok (seen', result)) :
    get result = get record := by
  induction members generalizing seen record with
  | nil =>
    cases h
    rfl
  | cons entry members ih =>
    obtain ⟨other, d⟩ := entry
    rw [readMembers] at h
    split at h
    · rw [if_pos rfl] at h
      cases h
    rename_i f hf
    have hfname : f.name = other := by simpa using List.find?_some hf
    split at h
    · cases h
    rename_i hfresh
    split at h
    · cases h
    rename_i next hset
    have hne : f.name ≠ name := by
      rintro rfl
      exact hfresh (List.contains_iff_mem.2 (hfname ▸ hseen))
    rw [ih (List.mem_cons_of_mem _ hseen) h,
      hkeeps.other f (List.mem_of_find?_eq_some hf) hne d record next hset]

/-- **A field of a record that is written as an object.**  The induction is on the members, of which
the first that speaks of the field is the only one. -/
theorem get_of_readMembers (hkeeps : Keeps fields name read get)
    {members : List (String × Document)} {seen seen' : List String}
    (h : readMembers true fields seen record members = .ok (seen', result)) :
    match (members.find? fun entry => entry.1 == name).map (·.2) with
    | none => get result = get record
    | some d => read d = .ok (get result) := by
  induction members generalizing seen record with
  | nil =>
    cases h
    rfl
  | cons entry members ih =>
    obtain ⟨other, d⟩ := entry
    rw [readMembers] at h
    split at h
    · rw [if_pos rfl] at h
      cases h
    rename_i f hf
    have hmem := List.mem_of_find?_eq_some hf
    have hfname : f.name = other := by simpa using List.find?_some hf
    split at h
    · cases h
    split at h
    · cases h
    rename_i next hset
    rw [List.find?_cons]
    by_cases hname : other = name
    · subst hname
      rw [beq_self_eq_true]
      have hget := get_of_readMembers_of_mem hkeeps (List.mem_cons_self ..) h
      change read d = .ok (get result)
      rw [hget]
      exact hkeeps.own f hmem hfname d record next hset
    · rw [beq_false_of_ne hname]
      have hget := hkeeps.other f hmem (hfname.trans_ne hname) d record next hset
      rw [← hget]
      exact ih h

/-- Fields that were not named leave the field as it is. -/
theorem get_of_readTuple_of_notMem (hkeeps : Keeps fields name read get) {surplus : Fault}
    {items : List Document} (hname : name ∉ fields.map (·.name))
    (h : readTuple surplus fields record items = .ok result) : get result = get record := by
  induction fields generalizing record items with
  | nil =>
    cases items with
    | nil =>
      cases h
      rfl
    | cons => cases h
  | cons f fields ih =>
    rw [List.map_cons, List.mem_cons, not_or] at hname
    have hrest : Keeps fields name read get :=
      ⟨fun g hg => hkeeps.own g (List.mem_cons_of_mem f hg),
        fun g hg => hkeeps.other g (List.mem_cons_of_mem f hg)⟩
    cases items with
    | nil =>
      rw [readTuple] at h
      split at h
      · cases h
      · exact ih hrest hname.2 h
    | cons d items =>
      rw [readTuple] at h
      split at h
      · cases h
      rename_i next hset
      rw [ih hrest hname.2 h, hkeeps.other f (List.mem_cons_self ..) (Ne.symm hname.1) d _ _ hset]

/-- **A field of a record that is written as a list.** -/
theorem get_of_readTuple (hkeeps : Keeps fields name read get)
    (hnodup : (fields.map (·.name)).Nodup) {surplus : Fault} {items : List Document}
    (hname : name ∈ fields.map (·.name))
    (h : readTuple surplus fields record items = .ok result) :
    match items[fields.findIdx fun f => f.name == name]? with
    | none => get result = get record
    | some d => read d = .ok (get result) := by
  induction fields generalizing record items with
  | nil => cases hname
  | cons f fields ih =>
    rw [List.map_cons, List.nodup_cons] at hnodup
    have hrest : Keeps fields name read get :=
      ⟨fun g hg => hkeeps.own g (List.mem_cons_of_mem f hg),
        fun g hg => hkeeps.other g (List.mem_cons_of_mem f hg)⟩
    rw [List.findIdx_cons]
    by_cases hfname : f.name = name
    · rw [hfname, beq_self_eq_true, cond_true]
      cases items with
      | nil =>
        rw [readTuple] at h
        split at h
        · cases h
        · exact get_of_readTuple_of_notMem hrest (hfname ▸ hnodup.1) h
      | cons d items =>
        rw [readTuple] at h
        split at h
        · cases h
        rename_i next hset
        have hget := get_of_readTuple_of_notMem hrest (hfname ▸ hnodup.1) h
        change read d = .ok (get result)
        rw [hget]
        exact hkeeps.own f (List.mem_cons_self ..) hfname d record next hset
    · have hlater : name ∈ fields.map (·.name) := by
        rw [List.map_cons, List.mem_cons] at hname
        exact hname.resolve_left (Ne.symm hfname)
      rw [beq_false_of_ne hfname, cond_false]
      cases items with
      | nil =>
        rw [readTuple] at h
        split at h
        · cases h
        · exact ih hrest hnodup.2 hlater h
      | cons d items =>
        rw [readTuple] at h
        split at h
        · cases h
        rename_i next hset
        have hget := hkeeps.other f (List.mem_cons_self ..) hfname d record next hset
        rw [← hget, List.getElem?_cons_succ]
        exact ih hrest hnodup.2 hlater h

/-- **A field of a record is what the document says of it**, or what it was at the start. -/
theorem get_of_readRecord (hkeeps : Keeps fields name read get)
    (hnodup : (fields.map (·.name)).Nodup) (hname : name ∈ fields.map (·.name)) {d : Document}
    (h : readRecord fields record d = .ok result) :
    match member? fields name d with
    | none => get result = get record
    | some part => read part = .ok (get result) := by
  cases d with
  | object members =>
    change readObject true fields record members = .ok result at h
    rw [readObject] at h
    cases hmembers : readMembers true fields [] record members with
    | error e => rw [hmembers] at h; cases h
    | ok read =>
      obtain ⟨seen, next⟩ := read
      rw [hmembers] at h
      cases hmissing : missing? fields seen with
      | some lacking =>
        simp only [bind, Except.bind, hmissing] at h
        cases h
      | none =>
        simp only [bind, Except.bind, hmissing, Except.ok.injEq] at h
        subst h
        exact get_of_readMembers hkeeps hmembers
  | array items => exact get_of_readTuple hkeeps hnodup hname h
  | null => cases h
  | bool => cases h
  | number => cases h
  | string => cases h

end Json
end WebSso
