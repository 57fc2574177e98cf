import WebSso.AuthnRequest
import WebSso.Proofs.Keyed
import WebSso.Proofs.Time.Written

/-!
# What was said last, and what stands in the way of a request

A request is described by saying things of it one after another.  Whatever was said in between, the
draft that is reached has, of each kind of thing, what was said of it last; it is shown by one step
for each thing that can be said.

A draft may still have nothing required in it, and an instant that cannot be written.  What stands
in the way is listed in the order in which it is come upon, and a draft that has no request is
refused for the first of it.

## What is here

* for each thing that can be said, the part of an edit that says it, such as `AuthnRequestEdit.id?`;
* `AuthnRequestEdit.last?`, the last that was said of a kind, and `AuthnRequestDraft.lastSaid`, the
  draft of all of these, with `AuthnRequestDraft.ofEdits_eq_lastSaid`;
* `Stop.FirstOf`, steps that stop with the first of some stops if there are any, and how two such
  steps follow each other, `Stop.FirstOf.bind`;
* `AuthnRequestDraft.obstacles`, what stands in the way of a request, and
  `AuthnRequestDraft.firstOf_obstacles`, by which it is what a draft is refused for;
* `AuthnRequestDraft.Complete`, which says of what was said that nothing stands in the way.
-/

set_option autoImplicit false
namespace WebSso

/-! ## What was said last -/

namespace AuthnRequestEdit

/-- The ID that is said. -/
def id? : AuthnRequestEdit → Option String
  | .id value => some value
  | _ => none

/-- The instant that is said. -/
def issueInstant? : AuthnRequestEdit → Option Instant
  | .issueInstant value => some value
  | _ => none

/-- The issuer that is said. -/
def issuer? : AuthnRequestEdit → Option String
  | .issuer value => some value
  | _ => none

/-- The endpoint of the request that is said. -/
def destination? : AuthnRequestEdit → Option String
  | .destination value => some value
  | _ => none

/-- The binding that is said. -/
def binding? : AuthnRequestEdit → Option Binding
  | .binding value => some value
  | _ => none

/-- The endpoint of the response that is said. -/
def consumerUrl? : AuthnRequestEdit → Option String
  | .consumerUrl value => some value
  | _ => none

/-- The format that is said. -/
def nameFormat? : AuthnRequestEdit → Option String
  | .nameFormat value => some value
  | _ => none

/-- What is said about creating a NameID. -/
def allowCreate? : AuthnRequestEdit → Option Bool
  | .allowCreate value => some value
  | _ => none

/-- The user who is said. -/
def subject? : AuthnRequestEdit → Option String
  | .subject value => some value
  | _ => none

section Last

variable {α : Type} (kind : AuthnRequestEdit → Option α)

/-- The last that was said of a kind. -/
def last? (edits : List AuthnRequestEdit) : Option α := (edits.filterMap kind).getLast?

theorem isSome_last?_iff {edits : List AuthnRequestEdit} :
    (last? kind edits).isSome ↔ ∃ e ∈ edits, (kind e).isSome :=
  isSome_getLast?_filterMap_iff kind

/-- What is said now comes before what was said last. -/
theorem last?_concat (edits : List AuthnRequestEdit) (e : AuthnRequestEdit) :
    last? kind (edits ++ [e]) = (kind e).or (last? kind edits) :=
  getLast?_filterMap_concat kind edits e

end Last

end AuthnRequestEdit

namespace AuthnRequestDraft

open AuthnRequestEdit

/-- The draft of what was said last, with what is meant where nothing was said. -/
def lastSaid (edits : List AuthnRequestEdit) : AuthnRequestDraft where
  id := last? id? edits
  issueInstant := last? issueInstant? edits
  issuer := last? issuer? edits
  destination := last? destination? edits
  binding := (last? binding? edits).getD .default
  consumerUrl := last? consumerUrl? edits
  nameFormat := last? nameFormat? edits
  allowCreate := (last? allowCreate? edits).getD true
  subject := last? subject? edits

/-- One more thing said. -/
theorem edit_lastSaid (edits : List AuthnRequestEdit) (e : AuthnRequestEdit) :
    (lastSaid edits).edit e = lastSaid (edits ++ [e]) := by
  simp only [lastSaid, last?_concat]
  cases e <;> rfl

/-- **A draft has what was said last**, and nothing else. -/
theorem ofEdits_eq_lastSaid (edits : List AuthnRequestEdit) : ofEdits edits = lastSaid edits :=
  foldl_eq_of_concat lastSaid rfl edit_lastSaid edits

end AuthnRequestDraft

/-! ## Stopping with the first of several stops -/

namespace Stop
variable {α β : Type} {x : Attempt α} {f : α → Attempt β} {l m : List Stop}

/-- A step stops with the first of some stops, if there are any. -/
def FirstOf (x : Attempt α) (stops : List Stop) : Prop :=
  ∀ stop, x = .error stop ↔ stops.head? = some stop

namespace FirstOf

theorem ok (a : α) : FirstOf (.ok a) [] := by
  intro stop
  constructor <;> nofun

theorem error (stop : Stop) (rest : List Stop) :
    FirstOf (.error stop : Attempt α) (stop :: rest) := by
  intro other
  rw [List.head?_cons, Option.some.injEq, Except.error.injEq]

/-- A step succeeds just if there is no stop. -/
theorem exists_ok_iff (h : FirstOf x l) : (∃ a, x = .ok a) ↔ l = [] := by
  cases x with
  | ok a =>
    have hnone : l.head? = none := Option.eq_none_iff_forall_ne_some.mpr fun stop hstop =>
      nomatch (h stop).mpr hstop
    simpa using hnone
  | error stop =>
    have hsome : l.head? = some stop := (h stop).mp rfl
    simp only [reduceCtorEq, exists_false, false_iff]
    rintro rfl
    cases hsome

/-- The stops of a second step come after those of the first. -/
theorem bind (hx : FirstOf x l) (hf : ∀ a, x = .ok a → FirstOf (f a) m) :
    FirstOf (x >>= f) (l ++ m) := by
  cases x with
  | ok a =>
    obtain rfl : l = [] := hx.exists_ok_iff.mp ⟨a, rfl⟩
    exact hf a rfl
  | error stop =>
    obtain ⟨rest, rfl⟩ : ∃ rest, l = stop :: rest := List.head?_eq_some_iff.mp ((hx stop).mp rfl)
    exact error stop (rest ++ m)

/-- A step that is changed where it succeeds stops as before. -/
theorem map (hx : FirstOf x l) (g : α → β) : FirstOf (x >>= fun a => .ok (g a)) l := by
  simpa using hx.bind fun a _ => ok (g a)

end FirstOf

end Stop

/-! ## What stands in the way of a request -/

/-- Why an instant cannot be written. -/
def Instant.unwritable (t : Instant) : List Stop :=
  if t.toUtc?.isNone then [.outOfRange]
  else if t.FourDigitYear then []
  else [.refused unwritableYear]

theorem Instant.unwritable_eq_nil_iff {t : Instant} :
    t.unwritable = [] ↔ t.toUtc?.isSome ∧ t.FourDigitYear := by
  rw [unwritable]
  cases t.toUtc? <;> simp

theorem Instant.firstOf_unwritable (t : Instant) : Stop.FirstOf t.write t.unwritable := by
  cases h : t.toUtc? with
  | none =>
    rw [write, unwritable, h]
    exact .error _ _
  | some u =>
    rw [write_of_toUtc? h, unwritable, h, Option.isNone_some, if_neg Bool.false_ne_true]
    split
    · exact .ok _
    · exact .error _ _

namespace AuthnRequestDraft
variable {α : Type}

open AuthnRequestEdit

/-- What is reported where nothing was said. -/
def missing (what : String) : Option α → List Stop
  | some _ => []
  | none => [.refused (.invalidRequest (what ++ " is required"))]

theorem firstOf_missing (what : String) (o : Option α) :
    Stop.FirstOf (required what o) (missing what o) := by
  cases o with
  | none => exact .error _ _
  | some value => exact .ok value

theorem missing_eq_nil_iff {what : String} {o : Option α} : missing what o = [] ↔ o.isSome := by
  cases o <;> simp [missing]

theorem required_eq_ok_iff {what : String} {o : Option α} {value : α} :
    required what o = .ok value ↔ o = some value := by
  cases o with
  | none => constructor <;> nofun
  | some _ => rw [required, Except.ok.injEq, Option.some.injEq]

/-- What stands in the way of a request, in the order in which it is come upon. -/
def obstacles (d : AuthnRequestDraft) : List Stop :=
  missing "name format" d.nameFormat
    ++ (missing "IssueInstant" d.issueInstant
    ++ (missing "ID" d.id
    ++ ((d.issueInstant.map Instant.unwritable).getD []
    ++ (missing "Destination" d.destination
    ++ (missing "consumer URL" d.consumerUrl
    ++ missing "Issuer" d.issuer)))))

/-- **A draft is refused for the first that stands in the way**, and has a request if nothing
does. -/
theorem firstOf_obstacles (d : AuthnRequestDraft) : Stop.FirstOf d.toDocument d.obstacles := by
  refine .map ?_ _
  rw [toElement, obstacles]
  refine .bind (firstOf_missing _ _) fun nameFormat _ => ?_
  refine .bind (firstOf_missing _ _) fun issueInstant hissued => ?_
  refine .bind (firstOf_missing _ _) fun id _ => ?_
  rw [required_eq_ok_iff.mp hissued]
  refine .bind issueInstant.firstOf_unwritable fun issued _ => ?_
  refine .bind (firstOf_missing _ _) fun destination _ => ?_
  refine .bind (firstOf_missing _ _) fun consumerUrl _ => ?_
  exact .map (firstOf_missing _ _) _

/-- All that is required was said, and the instant that was said last can be written. -/
structure Complete (edits : List AuthnRequestEdit) : Prop where
  /-- A format was said. -/
  nameFormat : ∃ e ∈ edits, e.nameFormat?.isSome
  /-- An instant was said, and the last one exists at UTC, in a year of four digits. -/
  issueInstant : ∃ t, last? issueInstant? edits = some t ∧ t.toUtc?.isSome ∧ t.FourDigitYear
  /-- An ID was said. -/
  id : ∃ e ∈ edits, e.id?.isSome
  /-- The endpoint of the request was said. -/
  destination : ∃ e ∈ edits, e.destination?.isSome
  /-- The endpoint of the response was said. -/
  consumerUrl : ∃ e ∈ edits, e.consumerUrl?.isSome
  /-- An issuer was said. -/
  issuer : ∃ e ∈ edits, e.issuer?.isSome

/-- Nothing stands in the way just if all that is required was said. -/
theorem obstacles_lastSaid_eq_nil_iff {edits : List AuthnRequestEdit} :
    (lastSaid edits).obstacles = [] ↔ Complete edits := by
  simp only [obstacles, List.append_eq_nil_iff, missing_eq_nil_iff, lastSaid, isSome_last?_iff]
  constructor
  · rintro ⟨hformat, hissued, hid, hwritable, hdestination, hconsumer, hissuer⟩
    obtain ⟨t, ht⟩ := Option.isSome_iff_exists.mp ((isSome_last?_iff _).mpr hissued)
    rw [ht, Option.map_some, Option.getD_some, Instant.unwritable_eq_nil_iff] at hwritable
    exact ⟨hformat, ⟨t, ht, hwritable⟩, hid, hdestination, hconsumer, hissuer⟩
  · rintro ⟨hformat, ⟨t, ht, hwritable⟩, hid, hdestination, hconsumer, hissuer⟩
    have hissued := (isSome_last?_iff _).mp (Option.isSome_of_mem ht)
    rw [ht, Option.map_some, Option.getD_some, Instant.unwritable_eq_nil_iff]
    exact ⟨hformat, hissued, hid, hwritable, hdestination, hconsumer, hissuer⟩

end AuthnRequestDraft
end WebSso
