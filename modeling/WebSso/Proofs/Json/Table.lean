import Mathlib.Data.List.Forall2
import Mathlib.Data.List.Nodup
import WebSso.Json.Read

/-!
# Objects whose members are entries

Some objects are not records with fields of their own but tables: any name may stand in front of a
value, and no name may stand there twice.  Such an object is read member by member, and what counts
against it is the first member that is at fault, either by its value or, if that is as it should be,
by a name that stood before.

## What is here

* `Json.readTable`, tables in general: how a value is read and what a name given twice is reported
  as are left open;
* `Json.Entries`, what members come to one by one, and `Json.AtFault`, what there is against a
  member behind others;
* `Json.readTable_eq_ok_iff` and `Json.readTable_eq_error_iff`, when a table is read and as what,
  and which fault is reported.
-/

set_option autoImplicit false
namespace WebSso
namespace Json

section Table

variable {α : Type} (readValue : String → Document → Except Fault α) (twice : String → Fault)

/-- The entries of members in order, behind others of the given names. -/
def readTable : List String → List (String × Document) → Except Fault (List (String × α))
  | _, [] => .ok []
  | seen, (name, d) :: rest =>
    match readValue name d with
    | .error e => .error e
    | .ok a =>
      if name ∈ seen then .error (twice name)
      else (readTable (seen ++ [name]) rest).map ((name, a) :: ·)

/-- Entries that members come to, in their order: each has its name and its value. -/
def Entries : List (String × Document) → List (String × α) → Prop :=
  List.Forall₂ fun member entry => entry.1 = member.1 ∧ readValue member.1 member.2 = .ok entry.2

/-- What there is against a member behind others of the given names.  Its value comes first. -/
inductive AtFault (seen : List String) : String × Document → Fault → Prop where
  /-- Its value cannot be read. -/
  | value {name : String} {d : Document} {fault : Fault} (h : readValue name d = .error fault) :
      AtFault seen (name, d) fault
  /-- Its name stood before. -/
  | twice {name : String} {d : Document} {a : α} (h : readValue name d = .ok a)
      (hname : name ∈ seen) : AtFault seen (name, d) (twice name)

variable {readValue twice} {members : List (String × Document)} {seen : List String}
  {entries : List (String × α)} {fault : Fault}

/-! ## One member -/

variable {name : String} {d : Document} {rest : List (String × Document)}

theorem readTable_cons_eq_ok_iff :
    readTable readValue twice seen ((name, d) :: rest) = .ok entries ↔
      ∃ a tail, readValue name d = .ok a ∧ name ∉ seen ∧
        readTable readValue twice (seen ++ [name]) rest = .ok tail ∧
          entries = (name, a) :: tail := by
  rw [readTable]
  cases readValue name d with
  | error e => simp
  | ok a =>
    by_cases hname : name ∈ seen
    · simp [hname]
    · cases readTable readValue twice (seen ++ [name]) rest with
      | error e => simp [hname, Except.map]
      | ok tail => simp [hname, Except.map, eq_comm]

theorem readTable_cons_eq_error_iff :
    readTable readValue twice seen ((name, d) :: rest) = .error fault ↔
      AtFault readValue twice seen (name, d) fault ∨
        ∃ a, readValue name d = .ok a ∧ name ∉ seen ∧
          readTable readValue twice (seen ++ [name]) rest = .error fault := by
  have hatFault : AtFault readValue twice seen (name, d) fault ↔
      readValue name d = .error fault ∨
        ∃ a, readValue name d = .ok a ∧ name ∈ seen ∧ twice name = fault := by
    constructor
    · rintro (h | ⟨h, hname⟩)
      · exact Or.inl h
      · exact Or.inr ⟨_, h, hname, rfl⟩
    · rintro (h | ⟨a, h, hname, rfl⟩)
      · exact .value h
      · exact .twice h hname
  rw [hatFault, readTable]
  cases readValue name d with
  | error e => simp
  | ok a =>
    by_cases hname : name ∈ seen
    · simp [hname]
    · cases readTable readValue twice (seen ++ [name]) rest with
      | error e => simp [hname, Except.map]
      | ok tail => simp [hname, Except.map]

/-! ## All members -/

/-- Names that differ from those before them and from each other, the first one being moved. -/
theorem nodup_append_cons_iff :
    (seen ++ ((name, d) :: rest).map (·.1)).Nodup ↔
      ((seen ++ [name]) ++ rest.map (·.1)).Nodup := by
  rw [List.map_cons, List.append_assoc, List.singleton_append]

theorem nodup_append_singleton_iff (hseen : seen.Nodup) :
    (seen ++ [name]).Nodup ↔ name ∉ seen := by
  simp only [List.nodup_append, hseen, List.nodup_singleton, List.mem_singleton, forall_eq,
    true_and]
  constructor
  · intro h hname
    exact h name hname rfl
  · rintro h other hother rfl
    exact h hother

/-- Members come to entries if each value can be read. -/
theorem exists_entries_iff :
    (∃ entries, Entries readValue members entries) ↔
      ∀ member ∈ members, ∃ a, readValue member.1 member.2 = .ok a := by
  induction members with
  | nil => simp [Entries]
  | cons member rest ih =>
    rw [List.forall_mem_cons, ← ih]
    constructor
    · rintro ⟨entries, hentries⟩
      obtain ⟨entry, tail, ⟨-, hvalue⟩, htail, -⟩ := List.forall₂_cons_left_iff.mp hentries
      exact ⟨⟨entry.2, hvalue⟩, tail, htail⟩
    · rintro ⟨⟨a, hvalue⟩, tail, htail⟩
      exact ⟨(member.1, a) :: tail, .cons ⟨rfl, hvalue⟩ htail⟩

/-- **A table is read if every value can be read and no name is given twice**, and comes to the
entries of its members in their order. -/
theorem readTable_eq_ok_iff (hseen : seen.Nodup) :
    readTable readValue twice seen members = .ok entries ↔
      Entries readValue members entries ∧ (seen ++ members.map (·.1)).Nodup := by
  induction members generalizing seen entries with
  | nil => 
    rw [List.map_nil, List.append_nil, Entries, List.forall₂_nil_left_iff]
    simp [readTable, hseen, eq_comm]
  | cons member rest ih =>
    obtain ⟨name, d⟩ := member
    rw [readTable_cons_eq_ok_iff, Entries, List.forall₂_cons_left_iff, nodup_append_cons_iff]
    constructor
    · rintro ⟨a, tail, hvalue, hname, htail, rfl⟩
      obtain ⟨hentries, hnodup⟩ := (ih ((nodup_append_singleton_iff hseen).mpr hname)).mp htail
      exact ⟨⟨(name, a), tail, ⟨rfl, hvalue⟩, hentries, rfl⟩, hnodup⟩
    · rintro ⟨⟨⟨_, a⟩, tail, ⟨rfl, hvalue⟩, hentries, rfl⟩, hnodup⟩
      have hfresh := (List.nodup_append.mp hnodup).1
      exact ⟨a, tail, hvalue, (nodup_append_singleton_iff hseen).mp hfresh,
        (ih hfresh).mpr ⟨hentries, hnodup⟩, rfl⟩

/-- **The first member at fault is reported**: those before it come to entries, with names that
differ. -/
theorem readTable_eq_error_iff (hseen : seen.Nodup) :
    readTable readValue twice seen members = .error fault ↔
      ∃ front member back, members = front ++ member :: back ∧
        (∃ entries, Entries readValue front entries) ∧ (seen ++ front.map (·.1)).Nodup ∧
        AtFault readValue twice (seen ++ front.map (·.1)) member fault := by
  induction members generalizing seen with
  | nil => simp [readTable]
  | cons member rest ih =>
    obtain ⟨name, d⟩ := member
    rw [readTable_cons_eq_error_iff]
    constructor
    · rintro (hfault | ⟨a, hvalue, hname, hrest⟩)
      · exact ⟨[], (name, d), rest, rfl, ⟨[], .nil⟩, by simpa using hseen, by simpa using hfault⟩
      · obtain ⟨front, member, back, rfl, ⟨entries, hentries⟩, hnodup, hfault⟩ :=
          (ih ((nodup_append_singleton_iff hseen).mpr hname)).mp hrest
        refine ⟨(name, d) :: front, member, back, rfl, ⟨(name, a) :: entries, ?_⟩, ?_, ?_⟩
        · exact .cons ⟨rfl, hvalue⟩ hentries
        · exact nodup_append_cons_iff.mpr hnodup
        · simpa using hfault
    · rintro ⟨front, member, back, hsplit, ⟨entries, hentries⟩, hnodup, hfault⟩
      cases front with
      | nil => 
        obtain ⟨rfl, rfl⟩ := List.cons.inj hsplit
        exact Or.inl (by simpa using hfault)
      | cons first front =>
        obtain ⟨rfl, rfl⟩ := List.cons.inj hsplit
        obtain ⟨⟨_, a⟩, tail, ⟨rfl, hvalue⟩, htail, rfl⟩ := List.forall₂_cons_left_iff.mp hentries
        rw [nodup_append_cons_iff] at hnodup
        have hfresh := (List.nodup_append.mp hnodup).1
        refine Or.inr ⟨a, hvalue, (nodup_append_singleton_iff hseen).mp hfresh, (ih hfresh).mpr ?_⟩
        exact ⟨front, member, back, rfl, ⟨tail, htail⟩, hnodup, by simpa using hfault⟩

end Table

end Json
end WebSso
