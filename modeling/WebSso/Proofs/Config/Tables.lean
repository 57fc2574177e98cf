import WebSso.Proofs.Config.Load
import WebSso.Proofs.Attributes.Regular
import WebSso.Proofs.Json.Parse
import WebSso.Proofs.Json.Table

/-!
# The tables of a configuration

Attributes and users are written as objects whose members are entries.  What such an object has to
be like is said here on its own, by the members and not by how they are read, together with what is
reported of one that is not: the first member at fault, and of that member the first thing against
it.

## What is here

* `Attributes.Lists`, the values that a document gives an attribute; `Attributes.DescribedBy`, the
  attributes that members describe, and `Attributes.Offends`, what there is against a member;
* `IdentityRecord.DescribedBy` and `IdentityRecord.Offends`, the same for users;
* `Attributes.read_object_eq_ok_iff` and its like, that reading accepts what is so described and
  reports the first offence;
* `tables_read`, all of it.
-/

set_option autoImplicit false
namespace WebSso

open Json

/-- The first of some members that offends, behind members that are as they should be. -/
def FirstOffence (valid : List (String × Document) → Prop)
    (offends : List String → String × Document → Json.Fault → Prop)
    (members : List (String × Document)) (fault : Json.Fault) : Prop :=
  ∃ front member back, members = front ++ member :: back ∧ valid front ∧
    offends (front.map (·.1)) member fault

/-! ## Attributes -/

namespace Attributes

/-- The values that a document gives an attribute: a text, or the texts of a list. -/
inductive Lists : Document → List String → Prop where
  /-- A text stands for a list of one. -/
  | text (s : String) : Lists (.string s) [s]
  /-- A list that holds nothing but texts. -/
  | texts (values : List String) : Lists (.array (values.map .string)) values

/-- Members that describe attributes: each gives at least one value, and names differ. -/
def ValidMembers (members : List (String × Document)) : Prop :=
  (∀ member ∈ members, ∃ values, Lists member.2 values ∧ values ≠ []) ∧
    (members.map (·.1)).Nodup

/-- The attributes that members describe: an entry for each, in their order. -/
def DescribedBy (m : Attributes) (members : List (String × Document)) : Prop :=
  List.Forall₂ (fun member entry => entry.1 = member.1 ∧ Lists member.2 entry.2 ∧ entry.2 ≠ [])
      members m.entries ∧
    (members.map (·.1)).Nodup

/-- What there is against a member behind others of the given names. -/
inductive Offends (seen : List String) : String × Document → Json.Fault → Prop where
  /-- Its value is neither a text nor a list of texts. -/
  | shape {name : String} {d : Document} (h : ∀ values, ¬ Lists d values) :
      Offends seen (name, d) (.noVariant "OneOrMany")
  /-- There is no value in the list. -/
  | empty {name : String} {d : Document} (h : Lists d []) :
      Offends seen (name, d) (.rule ("attribute " ++ name ++ " has no values"))
  /-- There are values, and the name stood before. -/
  | repeated {name : String} {d : Document} {values : List String} (h : Lists d values)
      (hvalues : values ≠ []) (hname : name ∈ seen) :
      Offends seen (name, d) (.rule ("attribute " ++ name ++ " is listed twice"))

/-! ### Values -/

theorem texts?_eq_some_iff {items : List Document} {values : List String} :
    texts? items = some values ↔ items = values.map .string := by
  induction items generalizing values with
  | nil =>
    cases values with
    | nil => simp [texts?]
    | cons => simp [texts?]
  | cons item rest ih =>
    cases item with
    | string s =>
      cases values with
      | nil => simp [texts?]
      | cons value values => simp [texts?, ih, and_comm]
    | _ => cases values <;> simp [texts?]

theorem lists_array_iff {items : List Document} {values : List String} :
    Lists (.array items) values ↔ texts? items = some values := by
  rw [texts?_eq_some_iff]
  constructor
  · rintro ⟨⟩
    rfl
  · rintro rfl
    exact .texts values

theorem readValues_eq_ok_iff {d : Document} {values : List String} :
    readValues d = .ok values ↔ Lists d values := by
  cases d with
  | string s =>
    constructor
    · rintro ⟨⟩
      exact .text s
    · rintro ⟨⟩
      rfl
  | array items =>
    rw [lists_array_iff, readValues]
    cases texts? items with
    | none => exact ⟨nofun, nofun⟩
    | some read => simp
  | _ => exact ⟨nofun, nofun⟩

/-- What is neither a text nor a list of texts is refused as that. -/
theorem readValues_eq_error_iff {d : Document} {fault : Json.Fault} :
    readValues d = .error fault ↔
      (∀ values, ¬ Lists d values) ∧ fault = .noVariant "OneOrMany" := by
  have hrefused : ∀ e, readValues d = .error e → e = .noVariant "OneOrMany" := by
    intro e h
    cases d with
    | array items =>
      rw [readValues] at h
      cases htexts : texts? items with
      | none =>
        rw [htexts] at h
        cases h
        rfl
      | some values => rw [htexts] at h; cases h
    | string s => cases h
    | _ =>
      cases h
      rfl
  simp only [← readValues_eq_ok_iff]
  cases h : readValues d with
  | error e => simp [hrefused e h, eq_comm]
  | ok values => simp

/-- The values of a named attribute, of which there has to be one. -/
def readNamed (name : String) (d : Document) : Except Json.Fault (List String) :=
  match readValues d with
  | .error e => .error e
  | .ok values =>
    if values.isEmpty then .error (.rule ("attribute " ++ name ++ " has no values")) else .ok values

theorem readNamed_eq_ok_iff {name : String} {d : Document} {values : List String} :
    readNamed name d = .ok values ↔ Lists d values ∧ values ≠ [] := by
  rw [← readValues_eq_ok_iff, readNamed]
  cases readValues d with
  | error e => simp
  | ok read =>
    cases read with
    | nil => simp +contextual [eq_comm]
    | cons value rest => simp +contextual [eq_comm]

/-! ### Members -/

/-- The fault of a name that is given twice. -/
def listedTwice (name : String) : Json.Fault := .rule ("attribute " ++ name ++ " is listed twice")

/-- Attributes are a table of named values. -/
theorem readMembers_eq (m : Attributes) (members : List (String × Document)) :
    readMembers m members =
      (readTable readNamed listedTwice m.names members).map fun entries =>
        ⟨m.entries ++ entries⟩ := by
  induction members generalizing m with
  | nil => simp [readMembers, readTable, Except.map]
  | cons member rest ih =>
    obtain ⟨name, d⟩ := member
    rw [readMembers, readTable, readNamed]
    cases readValues d with
    | error e => rfl
    | ok values =>
      by_cases hempty : values.isEmpty = true
      · simp only [hempty, if_true, Except.map]
      by_cases hname : name ∈ m.names
      · simp [hempty, contains_iff.mpr hname, hname, Except.map, listedTwice]
      · have hcontains : m.contains name = false := by
          rwa [← Bool.not_eq_true, contains_iff]
        have hinsert : m.insert name values = ⟨m.entries ++ [(name, values)]⟩ := by
          simp [insert, hcontains]
        have hnames : (m.insert name values).names = m.names ++ [name] := by
          rw [names_insert, if_neg hname]
        simp only [hempty, hcontains, hname, if_false, Bool.false_eq_true, ih, hnames]
        rw [hinsert]
        cases readTable readNamed _ (m.names ++ [name]) rest with
        | error e => rfl
        | ok tail => simp [Except.map]

variable {members : List (String × Document)} {m : Attributes} {fault : Json.Fault}

theorem read_object_eq (members : List (String × Document)) :
    read (.object members) = (readTable readNamed listedTwice [] members).map .mk :=
  readMembers_eq .empty members

theorem describedBy_iff :
    m.DescribedBy members ↔ Entries readNamed members m.entries ∧ (members.map (·.1)).Nodup := by
  simp only [DescribedBy, Entries, readNamed_eq_ok_iff]

/-- Members describe some attributes if each gives a value and names differ. -/
theorem exists_describedBy_iff :
    (∃ m : Attributes, m.DescribedBy members) ↔ ValidMembers members := by
  constructor
  · rintro ⟨m, h⟩
    obtain ⟨hentries, hnodup⟩ := describedBy_iff.mp h
    refine ⟨fun member hmember => ?_, hnodup⟩
    obtain ⟨values, hvalues⟩ := exists_entries_iff.mp ⟨_, hentries⟩ member hmember
    exact ⟨values, readNamed_eq_ok_iff.mp hvalues⟩
  · rintro ⟨hvalues, hnodup⟩
    have hread : ∀ member ∈ members, ∃ values, readNamed member.1 member.2 = .ok values :=
      fun member hmember => (hvalues member hmember).imp fun _ h => readNamed_eq_ok_iff.mpr h
    obtain ⟨entries, hentries⟩ := exists_entries_iff.mpr hread
    exact ⟨⟨entries⟩, describedBy_iff.mpr ⟨hentries, hnodup⟩⟩

/-- **Attributes are read if members describe them**, and they are those. -/
theorem read_object_eq_ok_iff : read (.object members) = .ok m ↔ m.DescribedBy members := by
  have htable : readTable readNamed listedTwice [] members = .ok m.entries ↔
      Entries readNamed members m.entries ∧ (members.map (·.1)).Nodup :=
    readTable_eq_ok_iff List.nodup_nil
  rw [read_object_eq, describedBy_iff, ← htable]
  rcases m with ⟨entries⟩
  cases readTable readNamed listedTwice [] members with
  | error e => simp [Except.map]
  | ok read => simp [Except.map]

/-- What there is against a member is what reading it reports. -/
theorem offends_iff {seen : List String} {member : String × Document} :
    Offends seen member fault ↔ AtFault readNamed listedTwice seen member fault := by
  constructor
  · intro h
    cases h with
    | shape h => exact .value (by rw [readNamed, readValues_eq_error_iff.mpr ⟨h, rfl⟩])
    | empty h => exact .value (by rw [readNamed, readValues_eq_ok_iff.mpr h]; rfl)
    | repeated h hvalues hname => exact .twice (readNamed_eq_ok_iff.mpr ⟨h, hvalues⟩) hname
  · intro h
    cases h with
    | @value name d _ h =>
      rw [readNamed] at h
      cases hvalues : readValues d with
      | error e =>
        rw [hvalues] at h
        cases h
        obtain ⟨hshape, rfl⟩ := readValues_eq_error_iff.mp hvalues
        exact .shape hshape
      | ok values =>
        rw [hvalues] at h
        cases values with
        | nil =>
          cases h
          exact .empty (readValues_eq_ok_iff.mp hvalues)
        | cons => cases h
    | twice h hname =>
      obtain ⟨hlists, hvalues⟩ := readNamed_eq_ok_iff.mp h
      exact .repeated hlists hvalues hname

/-- **The first offence is reported.** -/
theorem read_object_eq_error_iff :
    read (.object members) = .error fault ↔ FirstOffence ValidMembers Offends members fault := by
  have htable : readTable readNamed listedTwice [] members = .error fault ↔ _ :=
    readTable_eq_error_iff List.nodup_nil
  simp only [exists_entries_iff, readNamed_eq_ok_iff, List.nil_append, ← offends_iff] at htable
  simp only [FirstOffence, ValidMembers, and_assoc]
  rw [← htable, read_object_eq]
  cases readTable readNamed listedTwice [] members with
  | error e => simp [Except.map]
  | ok read => simp [Except.map]

/-- What there is against a document that should describe attributes. -/
inductive Refuses : Document → Json.Fault → Prop where
  /-- It is not an object. -/
  | kind {d : Document} (h : ∀ members, d ≠ .object members) : Refuses d .invalidType
  /-- One of its members offends. -/
  | member {members : List (String × Document)} {fault : Json.Fault}
      (h : FirstOffence ValidMembers Offends members fault) : Refuses (.object members) fault

theorem read_eq_ok_iff {d : Document} :
    read d = .ok m ↔ ∃ members, d = .object members ∧ m.DescribedBy members := by
  cases d with
  | object members => simp [read_object_eq_ok_iff]
  | _ => exact ⟨nofun, nofun⟩

/-- Attributes can be read of an object whose members describe some. -/
theorem exists_read_iff {d : Document} :
    (∃ m, read d = .ok m) ↔ ∃ members, d = .object members ∧ ValidMembers members := by
  simp only [read_eq_ok_iff, ← exists_describedBy_iff]
  constructor
  · rintro ⟨m, members, hd, h⟩
    exact ⟨members, hd, m, h⟩
  · rintro ⟨members, hd, m, h⟩
    exact ⟨m, members, hd, h⟩

/-- What is not an object is refused as that. -/
theorem read_of_kind {d : Document} (h : ∀ members, d ≠ .object members) :
    read d = .error .invalidType := by
  cases d with
  | object members => exact absurd rfl (h members)
  | _ => rfl

theorem read_eq_error_iff {d : Document} : read d = .error fault ↔ Refuses d fault := by
  by_cases hd : ∀ members, d ≠ .object members
  · rw [read_of_kind hd]
    constructor
    · rintro ⟨⟩
      exact .kind hd
    · rintro (hkind | hmember)
      · rfl
      · exact absurd rfl (hd _)
  · simp only [not_forall, not_not] at hd
    obtain ⟨members, rfl⟩ := hd
    rw [read_object_eq_error_iff]
    constructor
    · exact .member
    · rintro (hkind | hmember)
      · exact absurd rfl (hkind members)
      · exact hmember

end Attributes

/-! ## Users -/

namespace IdentityRecord

/-- Members that describe users: each gives attributes, and keys differ. -/
def ValidMembers (members : List (String × Document)) : Prop :=
  (∀ member ∈ members, ∃ entries, member.2 = .object entries ∧ Attributes.ValidMembers entries) ∧
    (members.map (·.1)).Nodup

/-- The users that members describe, in their order. -/
def DescribedBy (records : List IdentityRecord) (members : List (String × Document)) : Prop :=
  List.Forall₂ (fun member record => record.key = member.1 ∧
      ∃ entries, member.2 = .object entries ∧ record.attributes.DescribedBy entries)
      members records ∧
    (members.map (·.1)).Nodup

/-- What there is against a member behind others of the given keys. -/
inductive Offends (seen : List String) : String × Document → Json.Fault → Prop where
  /-- Its attributes are refused. -/
  | attributes {key : String} {d : Document} {fault : Json.Fault}
      (h : Attributes.Refuses d fault) : Offends seen (key, d) fault
  /-- Its attributes are as they should be, and the key stood before. -/
  | repeated {key : String} {entries : List (String × Document)}
      (h : Attributes.ValidMembers entries) (hkey : key ∈ seen) :
      Offends seen (key, .object entries) (.rule ("identity " ++ key ++ " is listed twice"))

/-- The fault of a key that is given twice. -/
def listedTwice (key : String) : Json.Fault := .rule ("identity " ++ key ++ " is listed twice")

/-- Users are a table of attributes. -/
theorem readMembers_eq (before : List IdentityRecord) (members : List (String × Document)) :
    readMembers before members =
      (Json.readTable (fun _ => Attributes.read) listedTwice (before.reverse.map (·.key))
        members).map fun entries =>
          before.reverse ++ entries.map fun entry => ⟨entry.1, entry.2⟩ := by
  induction members generalizing before with
  | nil => simp [readMembers, Json.readTable, Except.map]
  | cons member rest ih =>
    obtain ⟨key, d⟩ := member
    rw [readMembers, Json.readTable]
    cases Attributes.read d with
    | error e => rfl
    | ok attributes =>
      by_cases hkey : key ∈ before.map (·.key)
      · have hany : (before.any fun known => known.key == key) = true := by
          simpa using hkey
        have hseen : key ∈ before.reverse.map (·.key) := by
          simpa using hkey
        simp only [hany, if_true, if_pos hseen, Except.map, listedTwice]
      · have hany : (before.any fun known => known.key == key) = false := by
          simpa using hkey
        have hseen : key ∉ before.reverse.map (·.key) := by
          simpa using hkey
        have hmore : ((⟨key, attributes⟩ : IdentityRecord) :: before).reverse.map (·.key)
            = before.reverse.map (·.key) ++ [key] := by
          simp
        simp only [hany, Bool.false_eq_true, if_false, if_neg hseen, ih, hmore]
        cases Json.readTable _ listedTwice (before.reverse.map (·.key) ++ [key]) rest with
        | error e => rfl
        | ok tail => simp [Except.map]

variable {members : List (String × Document)} {records : List IdentityRecord} {fault : Json.Fault}

theorem readTable_object_eq (members : List (String × Document)) :
    readTable (.object members) =
      (Json.readTable (fun _ => Attributes.read) listedTwice [] members).map fun entries =>
        entries.map fun entry => ⟨entry.1, entry.2⟩ :=
  readMembers_eq [] members

theorem describedBy_iff :
    DescribedBy records members ↔
      Entries (fun _ => Attributes.read) members (records.map fun r => (r.key, r.attributes)) ∧
        (members.map (·.1)).Nodup := by
  simp only [DescribedBy, Entries, List.forall₂_map_right_iff, Attributes.read_eq_ok_iff]

/-- A user is a key with attributes. -/
theorem map_pair_map_mk (entries : List (String × Attributes)) :
    (entries.map fun entry => IdentityRecord.mk entry.1 entry.2).map
      (fun r => (r.key, r.attributes)) = entries := by
  rw [List.map_map]
  exact List.map_id entries

theorem map_mk_map_pair (records : List IdentityRecord) :
    (records.map fun r => (r.key, r.attributes)).map
      (fun entry => IdentityRecord.mk entry.1 entry.2) = records := by
  rw [List.map_map]
  exact List.map_id records

/-- Members describe some users if each describes attributes and keys differ. -/
theorem exists_describedBy_iff :
    (∃ records, DescribedBy records members) ↔ ValidMembers members := by
  simp only [ValidMembers, ← Attributes.exists_read_iff]
  constructor
  · rintro ⟨records, h⟩
    obtain ⟨hentries, hnodup⟩ := describedBy_iff.mp h
    exact ⟨exists_entries_iff.mp ⟨_, hentries⟩, hnodup⟩
  · rintro ⟨hread, hnodup⟩
    have hentries : ∃ entries, Entries (fun _ => Attributes.read) members entries :=
      exists_entries_iff.mpr hread
    obtain ⟨entries, hentries⟩ := hentries
    refine ⟨entries.map fun entry => ⟨entry.1, entry.2⟩, describedBy_iff.mpr ⟨?_, hnodup⟩⟩
    rwa [map_pair_map_mk]

/-- **Users are read if members describe them**, and they are those. -/
theorem readTable_object_eq_ok_iff :
    readTable (.object members) = .ok records ↔ DescribedBy records members := by
  have htable : Json.readTable (fun _ => Attributes.read) listedTwice [] members
      = .ok (records.map fun r => (r.key, r.attributes)) ↔
      Entries (fun _ => Attributes.read) members (records.map fun r => (r.key, r.attributes)) ∧
        (members.map (·.1)).Nodup :=
    readTable_eq_ok_iff List.nodup_nil
  rw [readTable_object_eq, describedBy_iff, ← htable]
  cases Json.readTable (fun _ => Attributes.read) listedTwice [] members with
  | error e => simp [Except.map]
  | ok read =>
    simp only [Except.map, Except.ok.injEq]
    constructor
    · rintro rfl
      exact (map_pair_map_mk read).symm
    · rintro rfl
      exact map_mk_map_pair records

/-- What there is against a member is what reading it reports. -/
theorem offends_iff {seen : List String} {member : String × Document} :
    Offends seen member fault ↔
      AtFault (fun _ => Attributes.read) listedTwice seen member fault := by
  constructor
  · rintro (h | ⟨h, hkey⟩)
    · exact .value (Attributes.read_eq_error_iff.mpr h)
    · obtain ⟨m, hm⟩ := Attributes.exists_read_iff.mpr ⟨_, rfl, h⟩
      exact .twice hm hkey
  · rintro (h | ⟨h, hkey⟩)
    · exact .attributes (Attributes.read_eq_error_iff.mp h)
    · obtain ⟨entries, rfl, hvalid⟩ := Attributes.exists_read_iff.mp ⟨_, h⟩
      exact .repeated hvalid hkey

/-- **The first offence is reported.** -/
theorem readTable_object_eq_error_iff :
    readTable (.object members) = .error fault ↔
      FirstOffence ValidMembers Offends members fault := by
  have htable :
      Json.readTable (fun _ => Attributes.read) listedTwice [] members = .error fault ↔ _ :=
    readTable_eq_error_iff List.nodup_nil
  simp only [exists_entries_iff, Attributes.exists_read_iff, List.nil_append, ← offends_iff]
    at htable
  simp only [FirstOffence, ValidMembers, and_assoc]
  rw [← htable, readTable_object_eq]
  cases Json.readTable (fun _ => Attributes.read) listedTwice [] members with
  | error e => simp [Except.map]
  | ok read => simp [Except.map]

end IdentityRecord

/-! ## Texts -/

/-- **The tables that are read are the valid ones**, whatever the text that writes their members:
what is read are the attributes, or the users, that the members describe, in their order; something
is read if each member is as it should be and names differ; and otherwise the first member at fault
is reported, with the first thing against it.  Inside a larger document it is the same. -/
theorem tables_read (members : List (String × Document)) :
    ((∀ m, Attributes.read (.object members) = .ok m ↔ m.DescribedBy members) ∧
      ((∃ m, Attributes.read (.object members) = .ok m) ↔ Attributes.ValidMembers members) ∧
      ∀ fault, Attributes.read (.object members) = .error fault ↔
        FirstOffence Attributes.ValidMembers Attributes.Offends members fault) ∧
    ((∀ records, IdentityRecord.readTable (.object members) = .ok records ↔
        IdentityRecord.DescribedBy records members) ∧
      ((∃ records, IdentityRecord.readTable (.object members) = .ok records) ↔
        IdentityRecord.ValidMembers members) ∧
      ∀ fault, IdentityRecord.readTable (.object members) = .error fault ↔
        FirstOffence IdentityRecord.ValidMembers IdentityRecord.Offends members fault) ∧
    ∀ text : String, Writes (.object members) text.toList →
      readText Attributes.read text = Attributes.read (.object members) ∧
        readText IdentityRecord.readTable text = IdentityRecord.readTable (.object members) := by
  refine ⟨⟨fun m => Attributes.read_object_eq_ok_iff, ?_,
      fun fault => Attributes.read_object_eq_error_iff⟩,
    ⟨fun records => IdentityRecord.readTable_object_eq_ok_iff, ?_,
      fun fault => IdentityRecord.readTable_object_eq_error_iff⟩, fun text h => ?_⟩
  · simp only [Attributes.read_object_eq_ok_iff, Attributes.exists_describedBy_iff]
  · simp only [IdentityRecord.readTable_object_eq_ok_iff, IdentityRecord.exists_describedBy_iff]
  · rw [readText, readText, parse?_eq_some_iff.mpr h]
    exact ⟨rfl, rfl⟩

/-- An attribute that is given twice, once under an escaped name. -/
def twiceText : String := "\x7b\"a\":[\"x\"],\"\\u0061\":\"y\"\x7d"

theorem tables_read_twice :
    ∃ members, Writes (.object members) twiceText.toList ∧
      readText Attributes.read twiceText = .error (.rule "attribute a is listed twice") ∧
      FirstOffence Attributes.ValidMembers Attributes.Offends members
        (.rule "attribute a is listed twice") := by
  have hread : readText Attributes.read twiceText
      = .error (.rule "attribute a is listed twice") := by decide +kernel
  cases hparse : parse? twiceText with
  | none =>
    rw [readText, hparse] at hread
    cases hread
  | some d =>
    have hdocument : Attributes.read d = .error (.rule "attribute a is listed twice") := by
      rw [← hread, readText, hparse]
    cases d with
    | object members =>
      obtain ⟨⟨-, -, herror⟩, -, -⟩ := tables_read members
      exact ⟨members, parse?_eq_some_iff.mp hparse, hread, (herror _).mp hdocument⟩
    | _ => cases hdocument

end WebSso
