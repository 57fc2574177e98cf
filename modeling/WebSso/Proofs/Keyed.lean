import Mathlib.Data.List.Dedup
import Mathlib.Data.List.Induction

/-!
# Things given one after another

What is described or collected is given piece by piece.  Of some kinds only the last piece counts.
Attributes and endpoints are given as pairs of a key and a value, and a key may be given again: one
pair is kept for each key, with the value that was given last.  Where the new value takes the place
of the old one, the keys stand in the order in which they were given first; where the old pair is
dropped and the new one put at the end, in the order in which they were given last.

Both are shown by what one pair more does: it leaves one pair for each key, and it moves the keys in
a way that tells the order they end up in.

## What is here

* `foldl_eq_of_concat`, by which it is enough to follow one step more;
* `getLast?_filterMap_concat` and `isSome_getLast?_filterMap_iff`, the last of a kind;
* `valuesOf` and `lastOf?`, the values that a key was given and the last of them, and `withLast`,
  keys with their last values;
* `IsKept`, one pair for each key with the value given last, and `Arranges`, a way to put one pair
  more with the order of the keys it leads to; `Arranges.foldl_eq`, all that is kept in such a way,
  and `Arranges.concat`, what one pair more makes of it;
* `putInPlace` and `keptInPlace`, the first way, with `arranges_putInPlace` and
  `filter_keptInPlace`;
* `putAtEnd` and `keptAtEnd`, the second way, with `arranges_putAtEnd`.
-/

set_option autoImplicit false
namespace WebSso

/-- A function of all that was given tells what is reached step by step, if it follows each step. -/
theorem foldl_eq_of_concat {σ ε : Type} {step : σ → ε → σ} {start : σ} (reached : List ε → σ)
    (hnil : reached [] = start) (hstep : ∀ l e, step (reached l) e = reached (l ++ [e]))
    (l : List ε) : l.foldl step start = reached l := by
  induction l using List.reverseRecOn with
  | nil => exact hnil.symm
  | append_singleton l e ih =>
    rw [List.foldl_append, List.foldl_cons, List.foldl_nil, ih, hstep]

/-! ## The last of a kind -/

section OfKind

variable {ε β : Type} (kind : ε → Option β)

theorem filterMap_concat (l : List ε) (e : ε) :
    (l ++ [e]).filterMap kind = l.filterMap kind ++ (kind e).toList := by
  cases h : kind e <;> simp [h]

/-- What is of a kind now comes before what was of that kind last. -/
theorem getLast?_filterMap_concat (l : List ε) (e : ε) :
    ((l ++ [e]).filterMap kind).getLast? = (kind e).or (l.filterMap kind).getLast? := by
  rw [filterMap_concat, List.getLast?_append]
  cases kind e <;> rfl

theorem filterMap_ne_nil_iff {l : List ε} : l.filterMap kind ≠ [] ↔ ∃ e ∈ l, (kind e).isSome := by
  rw [ne_eq, List.filterMap_eq_nil_iff]
  simp [Option.ne_none_iff_isSome]

/-- There is a last of a kind if there is any. -/
theorem isSome_getLast?_filterMap_iff {l : List ε} :
    (l.filterMap kind).getLast?.isSome ↔ ∃ e ∈ l, (kind e).isSome := by
  rw [← filterMap_ne_nil_iff, ← Option.ne_none_iff_isSome, ne_eq, List.getLast?_eq_none_iff]

end OfKind

variable {κ α : Type} [DecidableEq κ]

/-! ## The value given last -/

/-- The value that a key was given last. -/
def lastOf? (key : κ) (given : List (κ × α)) : Option α := given.reverse.lookup key

theorem lookup_cons_eq_ite (key : κ) (p : κ × α) (l : List (κ × α)) :
    (p :: l).lookup key = if p.1 = key then some p.2 else l.lookup key := by
  rw [List.lookup_cons]
  by_cases h : p.1 = key
  · simp [h]
  · have hne : (key == p.1) = false := by simpa using Ne.symm h
    simp [h, hne]

/-- What is given now comes before what was given last. -/
theorem lastOf?_concat (key : κ) (given : List (κ × α)) (p : κ × α) :
    lastOf? key (given ++ [p]) = if p.1 = key then some p.2 else lastOf? key given := by
  rw [lastOf?, List.reverse_append, List.reverse_singleton, List.singleton_append,
    lookup_cons_eq_ite]
  rfl

/-- A key is not found among pairs without it, and all others are found as they were. -/
theorem lookup_filter_ne (key other : κ) (l : List (κ × α)) :
    (l.filter fun p => p.1 != key).lookup other
      = if key = other then none else l.lookup other := by
  induction l with
  | nil => simp
  | cons p rest ih =>
    rw [List.filter_cons, lookup_cons_eq_ite]
    by_cases h : p.1 = key
    · simp only [h, bne_self_eq_false, Bool.false_eq_true, if_false, ih]
      by_cases ho : key = other <;> simp [ho]
    · have hkept : (p.1 != key) = true := by simpa using h
      rw [if_pos hkept, lookup_cons_eq_ite, ih]
      by_cases ho : key = other
      · simp [ho ▸ h, ho]
      · simp [ho]

/-- All values that a key was given, first to last. -/
def valuesOf (key : κ) (given : List (κ × α)) : List α :=
  given.filterMap fun p => if p.1 = key then some p.2 else none

theorem valuesOf_concat (key : κ) (given : List (κ × α)) (p : κ × α) :
    valuesOf key (given ++ [p])
      = if p.1 = key then valuesOf key given ++ [p.2] else valuesOf key given := by
  by_cases h : p.1 = key <;> simp [valuesOf, h]

theorem valuesOf_filter_ne (key other : κ) (given : List (κ × α)) :
    valuesOf other (given.filter fun p => p.1 != key)
      = if key = other then [] else valuesOf other given := by
  rw [valuesOf, List.filterMap_filter]
  by_cases h : key = other
  · rw [if_pos h, List.filterMap_eq_nil_iff]
    intro p _
    by_cases hp : p.1 = key
    · simp [hp]
    · simp [h ▸ hp]
  · rw [if_neg h]
    refine List.filterMap_congr fun p _ => ?_
    by_cases hp : p.1 = other
    · simp [hp, Ne.symm h]
    · simp [hp]

theorem lastOf?_eq_getLast? (key : κ) (given : List (κ × α)) :
    lastOf? key given = (valuesOf key given).getLast? := by
  induction given using List.reverseRecOn with
  | nil => rfl
  | append_singleton given p ih =>
    rw [lastOf?_concat, valuesOf_concat, ih]
    by_cases h : p.1 = key <;> simp [h]

/-- Keys with the values they were given last, if they were given any. -/
def withLast (keys : List κ) (given : List (κ × α)) : List (κ × α) :=
  keys.filterMap fun key => (lastOf? key given).map (key, ·)

/-- A pair is found by its key where no key has two. -/
theorem lookup_eq_some_of_mem {l : List (κ × α)} (h : (l.map (·.1)).Nodup) {p : κ × α}
    (hp : p ∈ l) : l.lookup p.1 = some p.2 := by
  induction l with
  | nil => cases hp
  | cons q rest ih =>
    rw [List.map_cons, List.nodup_cons] at h
    rw [lookup_cons_eq_ite]
    obtain rfl | hrest := List.mem_cons.mp hp
    · exact if_pos rfl
    · have hne : q.1 ≠ p.1 := fun heq => h.1 (heq ▸ List.mem_map_of_mem hrest)
      rw [if_neg hne, ih h.2 hrest]

/-! ## One pair for each key -/

/-- One pair for each key that was given, with the value it was given last. -/
structure IsKept (given kept : List (κ × α)) : Prop where
  /-- No key has two pairs. -/
  once : (kept.map (·.1)).Nodup
  /-- A key is found with the value it was given last, if it was given any. -/
  last (key : κ) : kept.lookup key = lastOf? key given

namespace IsKept
variable {given kept : List (κ × α)}

theorem nil : IsKept ([] : List (κ × α)) [] := ⟨List.nodup_nil, fun _ => rfl⟩

/-- Where it stands, each key has the value it was given last. -/
theorem lastOf?_of_mem (h : IsKept given kept) {p : κ × α} (hp : p ∈ kept) :
    lastOf? p.1 given = some p.2 := by
  rw [← h.last, lookup_eq_some_of_mem h.once hp]

/-- The keys say which pairs are kept. -/
theorem eq_withLast (h : IsKept given kept) : kept = withLast (kept.map (·.1)) given := by
  rw [withLast, List.filterMap_map]
  calc kept = kept.filterMap some := List.filterMap_some.symm
    _ = _ := List.filterMap_congr fun p hp => by simp [h.lastOf?_of_mem hp]

end IsKept

/-- A way to put one pair more into what is kept, and the order in which the keys stand then, by the
order in which they were given. -/
structure Arranges (put : κ → α → List (κ × α) → List (κ × α)) (order : List κ → List κ) :
    Prop where
  /-- No keys are in order. -/
  nil : order [] = []
  /-- One pair is left for each key, with the value given last. -/
  kept {given kept : List (κ × α)} (h : IsKept given kept) (key : κ) (value : α) :
    IsKept (given ++ [(key, value)]) (put key value kept)
  /-- The keys stand in the order that they are in with one more. -/
  keys {keys : List κ} {kept : List (κ × α)} (h : kept.map (·.1) = order keys) (key : κ)
    (value : α) : (put key value kept).map (·.1) = order (keys ++ [key])

namespace Arranges
variable {put : κ → α → List (κ × α) → List (κ × α)} {order : List κ → List κ}

theorem isKept_foldl (h : Arranges put order) (given : List (κ × α)) :
    IsKept given (given.foldl (fun kept p => put p.1 p.2 kept) []) ∧
      (given.foldl (fun kept p => put p.1 p.2 kept) []).map (·.1) = order (given.map (·.1)) := by
  induction given using List.reverseRecOn with
  | nil => exact ⟨IsKept.nil, h.nil.symm⟩
  | append_singleton given p ih =>
    rw [List.foldl_append, List.foldl_cons, List.foldl_nil, List.map_append, List.map_singleton]
    exact ⟨h.kept ih.1 p.1 p.2, h.keys ih.2 p.1 p.2⟩

/-- **What is kept of pairs put one after another**: the keys, each once and in order, with the
values they were given last. -/
theorem foldl_eq (h : Arranges put order) (given : List (κ × α)) :
    given.foldl (fun kept p => put p.1 p.2 kept) [] = withLast (order (given.map (·.1))) given := by
  obtain ⟨hkept, hkeys⟩ := h.isKept_foldl given
  rw [hkept.eq_withLast, hkeys]

theorem isKept (h : Arranges put order) (given : List (κ × α)) :
    IsKept given (withLast (order (given.map (·.1))) given) := by
  rw [← h.foldl_eq]
  exact (h.isKept_foldl given).1

theorem keys_withLast (h : Arranges put order) (given : List (κ × α)) :
    (withLast (order (given.map (·.1))) given).map (·.1) = order (given.map (·.1)) := by
  rw [← h.foldl_eq]
  exact (h.isKept_foldl given).2

/-- One pair more is put into what was kept. -/
theorem concat (h : Arranges put order) (given : List (κ × α)) (p : κ × α) :
    withLast (order ((given ++ [p]).map (·.1))) (given ++ [p])
      = put p.1 p.2 (withLast (order (given.map (·.1))) given) := by
  rw [← h.foldl_eq, ← h.foldl_eq, List.foldl_append, List.foldl_cons, List.foldl_nil]

end Arranges

/-! ## The new value in place of the old one -/

/-- Pairs with a value for a key: in its place if it is there, at the end otherwise. -/
def putInPlace (key : κ) (value : α) : List (κ × α) → List (κ × α)
  | [] => [(key, value)]
  | p :: rest => if p.1 = key then (key, value) :: rest else p :: putInPlace key value rest

/-- What is kept of pairs if a new value takes the place of the old one: each key once, where it was
given first. -/
def keptInPlace (given : List (κ × α)) : List (κ × α) :=
  withLast (given.map (·.1)).eraseDups given

section InPlace

variable (key : κ) (value : α)

theorem keys_putInPlace (l : List (κ × α)) :
    (putInPlace key value l).map (·.1)
      = if key ∈ l.map (·.1) then l.map (·.1) else l.map (·.1) ++ [key] := by
  induction l with
  | nil => rfl
  | cons p rest ih =>
    rw [putInPlace]
    by_cases h : p.1 = key
    · simp [h]
    · simp only [if_neg h, List.map_cons, ih, List.mem_cons, Ne.symm h, false_or]
      split <;> rfl

theorem lookup_putInPlace (other : κ) (l : List (κ × α)) :
    (putInPlace key value l).lookup other
      = if key = other then some value else l.lookup other := by
  induction l with
  | nil => exact lookup_cons_eq_ite other (key, value) []
  | cons p rest ih =>
    rw [putInPlace]
    by_cases h : p.1 = key
    · rw [if_pos h, lookup_cons_eq_ite, lookup_cons_eq_ite, h]
      by_cases ho : key = other <;> simp [ho]
    · rw [if_neg h, lookup_cons_eq_ite, lookup_cons_eq_ite, ih]
      by_cases ho : key = other
      · simp [ho ▸ h, ho]
      · simp [ho]

/-- Without its key, a pair that is put makes no difference. -/
theorem filter_putInPlace_self (l : List (κ × α)) :
    (putInPlace key value l).filter (fun p => p.1 != key) = l.filter fun p => p.1 != key := by
  induction l with
  | nil => simp [putInPlace]
  | cons p rest ih =>
    rw [putInPlace]
    by_cases h : p.1 = key
    · simp [h]
    · simp [h, ih]

/-- Without another key, a pair is put among those that are left. -/
theorem filter_putInPlace_of_ne {other : κ} (hne : key ≠ other) (l : List (κ × α)) :
    (putInPlace key value l).filter (fun p => p.1 != other)
      = putInPlace key value (l.filter fun p => p.1 != other) := by
  induction l with
  | nil => simp [putInPlace, hne]
  | cons p rest ih =>
    rw [putInPlace]
    by_cases h : p.1 = key
    · simp [h, hne, putInPlace]
    · by_cases ho : p.1 = other
      · simp [ho, Ne.symm hne, ih]
      · simp [h, ho, ih, putInPlace]

theorem eraseDups_concat (l : List κ) :
    (l ++ [key]).eraseDups = if key ∈ l then l.eraseDups else l.eraseDups ++ [key] := by
  rw [List.eraseDups_append]
  by_cases h : key ∈ l <;> simp [h, List.removeAll, List.eraseDups_cons]

end InPlace

/-- Where a new value takes the place of the old one, keys stand where they were given first. -/
theorem arranges_putInPlace : Arranges (putInPlace (κ := κ) (α := α)) List.eraseDups where
  nil := rfl
  kept h key value :=
    { once := by
        rw [keys_putInPlace]
        split
        · exact h.once
        · next hnew => exact List.nodup_append.mpr ⟨h.once, List.nodup_singleton key, by
            rintro other hother _ hkey rfl
            exact hnew (List.mem_singleton.mp hkey ▸ hother)⟩
      last := fun other => by rw [lookup_putInPlace, lastOf?_concat, h.last] }
  keys h key value := by
    rw [keys_putInPlace, h, eraseDups_concat]
    simp only [List.mem_eraseDups]

theorem isKept_keptInPlace (given : List (κ × α)) : IsKept given (keptInPlace given) :=
  arranges_putInPlace.isKept given

theorem keys_keptInPlace (given : List (κ × α)) :
    (keptInPlace given).map (·.1) = (given.map (·.1)).eraseDups :=
  arranges_putInPlace.keys_withLast given

theorem keptInPlace_concat (given : List (κ × α)) (p : κ × α) :
    keptInPlace (given ++ [p]) = putInPlace p.1 p.2 (keptInPlace given) :=
  arranges_putInPlace.concat given p

/-- Leaving out a key is the same before and after. -/
theorem filter_keptInPlace (given : List (κ × α)) (key : κ) :
    (keptInPlace given).filter (fun p => p.1 != key)
      = keptInPlace (given.filter fun p => p.1 != key) := by
  induction given using List.reverseRecOn with
  | nil => rfl
  | append_singleton given p ih =>
    rw [keptInPlace_concat, List.filter_append]
    by_cases h : p.1 = key
    · rw [← h, filter_putInPlace_self, h, ih]
      simp [h]
    · have hkept : [p].filter (fun p => p.1 != key) = [p] := by simp [h]
      rw [filter_putInPlace_of_ne p.1 p.2 h, ih, hkept, keptInPlace_concat]

/-! ## The new pair at the end -/

/-- Pairs with a value for a key, at the end; the pair that the key had is dropped. -/
def putAtEnd (key : κ) (value : α) (l : List (κ × α)) : List (κ × α) :=
  l.filter (fun p => p.1 != key) ++ [(key, value)]

/-- What is kept of pairs if the old one is dropped and the new one put at the end: each key once,
where it was given last. -/
def keptAtEnd (given : List (κ × α)) : List (κ × α) :=
  withLast (given.map (·.1)).dedup given

section AtEnd

variable (key : κ) (value : α)

theorem lookup_putAtEnd (other : κ) (l : List (κ × α)) :
    (putAtEnd key value l).lookup other = if key = other then some value else l.lookup other := by
  rw [putAtEnd, List.lookup_append, lookup_filter_ne, lookup_cons_eq_ite, List.lookup_nil]
  by_cases h : key = other <;> simp [h]

theorem keys_putAtEnd (l : List (κ × α)) :
    (putAtEnd key value l).map (·.1) = (l.map (·.1)).filter (· != key) ++ [key] := by
  rw [putAtEnd, List.map_append, List.map_singleton, List.filter_map]
  rfl

theorem dedup_concat (l : List κ) :
    (l ++ [key]).dedup = l.dedup.filter (· != key) ++ [key] := by
  induction l with
  | nil => rfl
  | cons other rest ih =>
    rw [List.cons_append, List.dedup_cons, List.dedup_cons, ih]
    by_cases hrest : other ∈ rest
    · simp [hrest]
    · obtain rfl | h := eq_or_ne other key
      · simp [hrest]
      · simp [hrest, h]

end AtEnd

/-- Where the new pair is put at the end, keys stand where they were given last. -/
theorem arranges_putAtEnd : Arranges (putAtEnd (κ := κ) (α := α)) List.dedup where
  nil := rfl
  kept h key value :=
    { once := by
        rw [keys_putAtEnd]
        exact List.nodup_append.mpr ⟨h.once.filter _, List.nodup_singleton key, by
          rintro other hother _ hkey rfl
          simp [List.mem_singleton.mp hkey] at hother⟩
      last := fun other => by rw [lookup_putAtEnd, lastOf?_concat, h.last] }
  keys h key value := by rw [keys_putAtEnd, h, dedup_concat]

theorem keptAtEnd_eq_nil_iff {given : List (κ × α)} : keptAtEnd given = [] ↔ given = [] := by
  have hkeys : (keptAtEnd given).map (·.1) = (given.map (·.1)).dedup :=
    arranges_putAtEnd.keys_withLast given
  rw [← List.map_eq_nil_iff, hkeys, List.dedup_eq_nil, List.map_eq_nil_iff]

theorem keptAtEnd_concat (given : List (κ × α)) (p : κ × α) :
    keptAtEnd (given ++ [p]) = putAtEnd p.1 p.2 (keptAtEnd given) :=
  arranges_putAtEnd.concat given p

end WebSso
