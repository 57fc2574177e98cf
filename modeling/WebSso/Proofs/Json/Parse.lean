import WebSso.Proofs.Json.Scan

/-!
# A text is read as the document that it writes

Lists and objects are read by one loop, with what a part looks like and the closing character left
open.  So it is enough to know of a part that it is read as it is written to know the same of the
list or the object it is in, and the depth to which values are nested is what the induction is on.

The fuel is twice the number of characters: a value takes one unit for itself and the loop one for
every part, and there is a character for each of them.

## What is here

* `Json.scanParts?`, the loop, with `Json.scanItems?_eq` and `Json.scanMembers?_eq`;
* `Json.Agrees`, that a scanner reads what a relation says is written;
* `Json.Agrees.exists_parts` and `Json.Agrees.scanParts?_of_sequence`: the loop agrees with the
  grammar if the scanner of parts does;
* `Json.Agrees.member` and `Json.Agrees.value`, the same for members and values;
* `Json.parse?_eq_some_iff`: the document that is read is the one that the text writes, of which
  there is no other.
-/

set_option autoImplicit false
namespace WebSso
namespace Json

/-! ## The loop of lists and objects -/

section
variable {α : Type} (part : Nat → List Char → Option (α × List Char)) (build : List α → Document)
  (close : Char)

/-- Parts between commas up to a closing character, behind parts already read, which are kept last
first. -/
def scanParts? : Nat → List α → List Char → Option (Document × List Char)
  | 0, _, _ => none
  | fuel + 1, read, text =>
    let next (text : List Char) : Option (Document × List Char) :=
      (part fuel text).bind fun (a, rest) => scanParts? fuel (a :: read) rest
    match skipSpace text with
    | c :: rest =>
      if c = close then some (build read.reverse, rest)
      else if c = ',' then if read.isEmpty then none else next rest
      else if read.isEmpty then next text else none
    | [] => if read.isEmpty then next text else none

end

/-- A member of an object, by a scanner of its value. -/
def scanMember? (value : Nat → List Char → Option (Document × List Char)) (fuel : Nat)
    (text : List Char) : Option ((String × Document) × List Char) :=
  match skipSpace text with
  | '"' :: rest =>
    match scanString? rest with
    | none => none
    | some (name, rest) =>
      match skipSpace rest with
      | ':' :: rest => (value fuel rest).map fun (d, rest) => ((name, d), rest)
      | _ => none
  | _ => none

variable {text rest : List Char}

/-- No value starts with a bracket that closes a list. -/
theorem scanValue?_bracket {fuel depth : Nat} (h : skipSpace text = ']' :: rest) :
    scanValue? fuel depth text = none := by
  cases fuel with
  | zero => rw [scanValue?]
  | succ fuel =>
    rw [scanValue?, h]
    rfl

theorem scanItems?_eq (fuel depth : Nat) (read : List Document) (text : List Char) :
    scanItems? fuel depth read text =
      scanParts? (fun fuel => scanValue? fuel depth) .array ']' fuel read text := by
  induction fuel generalizing read text with
  | zero => rw [scanItems?, scanParts?]
  | succ fuel ih =>
    rw [scanItems?, scanParts?]
    dsimp only
    cases hskip : skipSpace text with
    | nil => cases scanValue? fuel depth text <;> simp [ih]
    | cons c tail =>
      by_cases hclose : c = ']'
      · simp [hclose]
      by_cases hcomma : c = ','
      · cases hbracket : skipSpace tail with
        | nil =>
          simp only [hcomma, hbracket, Char.reduceEq, if_false, if_true]
          cases scanValue? fuel depth tail <;> simp [ih]
        | cons c' tail' =>
          -- a bracket behind a comma is refused at once; the loop finds no value there
          by_cases hc' : c' = ']'
          · rw [hc'] at hbracket
            simp [hcomma, hbracket, scanValue?_bracket hbracket]
          · simp only [hcomma, hbracket, Char.reduceEq, if_false, if_true]
            cases scanValue? fuel depth tail <;> simp [hc', ih]
      · cases scanValue? fuel depth text <;> simp [hclose, hcomma, ih]

/-- A member is read, and the object goes on behind it. -/
theorem scanMember?_bind (fuel depth : Nat) (read : List (String × Document)) (text : List Char) :
    (scanMember? (fun fuel => scanValue? fuel depth) fuel text).bind
        (fun (a, rest) => scanMembers? fuel depth (a :: read) rest) =
      match skipSpace text with
      | '"' :: rest =>
        match scanString? rest with
        | none => none
        | some (name, rest) =>
          match skipSpace rest with
          | ':' :: rest =>
            match scanValue? fuel depth rest with
            | some (value, rest) => scanMembers? fuel depth ((name, value) :: read) rest
            | none => none
          | _ => none
      | _ => none := by
  rw [scanMember?]
  split
  · split
    · rfl
    · split
      · rename_i rest _
        cases scanValue? fuel depth rest <;> rfl
      · rfl
  · rfl

theorem scanMembers?_eq (fuel depth : Nat) (read : List (String × Document)) (text : List Char) :
    scanMembers? fuel depth read text =
      scanParts? (scanMember? fun fuel => scanValue? fuel depth) .object '\x7d' fuel read text := by
  induction fuel generalizing read text with
  | zero => rw [scanMembers?, scanParts?]
  | succ fuel ih =>
    rw [scanMembers?, scanParts?]
    simp only [← ih, scanMember?_bind]
    cases hskip : skipSpace text with
    | nil => rfl
    | cons c tail =>
      by_cases hclose : c = '\x7d'
      · simp [hclose]
      by_cases hcomma : c = ','
      · subst hcomma
        rfl
      · simp only [if_neg hclose, if_neg hcomma]
        split
        · exact absurd (List.cons.inj ‹_›).1 hclose
        · exact absurd (List.cons.inj ‹_›).1 hcomma
        · rfl

/-! ## Where parts start and end -/

/-- The characters that stand between parts. -/
def separators : List Char := [' ', '\n', '\t', '\r', ',', ']', '\x7d']

theorem mem_separators_of_isSpace {c : Char} (h : isSpace c = true) : c ∈ separators := by
  simp only [isSpace, Bool.or_eq_true, beq_iff_eq] at h
  rcases h with ((rfl | rfl) | rfl) | rfl
  all_goals decide

theorem isSpace_of_not_mem {c : Char} (h : c ∉ separators) : isSpace c = false := by
  rw [← Bool.not_eq_true]
  exact fun hspace => h (mem_separators_of_isSpace hspace)

/-- No number goes on in what stands between parts. -/
theorem endsNumber_of_separators (h : ∀ c ∈ rest.head?, c ∈ separators) : EndsNumber rest := by
  have hall : ∀ c ∈ separators, isDigit c = false ∧ c ≠ '.' ∧ c ≠ 'e' ∧ c ≠ 'E' := by
    simp [separators, isDigit]
  exact fun c hc => hall c (h c hc)

theorem endsNumber_blank {space : List Char} (h : Blank space) : EndsNumber space := by
  refine endsNumber_of_separators fun c hc => mem_separators_of_isSpace (h c ?_)
  exact List.mem_of_mem_head? hc

theorem endsNumber_blank_cons {space : List Char} {c : Char} (h : Blank space)
    (hc : c ∈ separators) (rest : List Char) : EndsNumber (space ++ c :: rest) := by
  refine endsNumber_of_separators fun first hfirst => ?_
  cases space with
  | nil =>
    cases hfirst
    exact hc
  | cons =>
    cases hfirst
    exact mem_separators_of_isSpace (h _ (List.mem_cons_self ..))

/-- A character that ends a list or an object. -/
structure Closes (close : Char) : Prop where
  mem : close ∈ separators
  not_space : isSpace close = false
  ne_comma : close ≠ ','

theorem closes_bracket : Closes ']' := ⟨by decide, by decide, by decide⟩

theorem closes_brace : Closes '\x7d' := ⟨by decide, by decide, by decide⟩

/-- A text that starts, behind white space, with none of the characters that stand between parts. -/
def Starts (text : List Char) : Prop :=
  ∃ space c tail, Blank space ∧ c ∉ separators ∧ text = space ++ c :: tail

theorem Starts.length_pos (h : Starts text) : 0 < text.length := by
  obtain ⟨space, c, tail, -, -, rfl⟩ := h
  simp only [List.length_append, List.length_cons]
  omega

/-- What stands behind a part ends a number. -/
theorem Tail.endsNumber {α : Type} {part : α → List Char → Prop} {close : Char} {as : List α}
    {raw : List Char} (h : Tail part close as raw) (hclose : Closes close) (rest : List Char) :
    EndsNumber (raw ++ rest) := by
  cases h with
  | close hspace =>
    rw [List.append_assoc]
    exact endsNumber_blank_cons hspace hclose.mem _
  | comma hspace _ _ =>
    rw [List.append_assoc]
    exact endsNumber_blank_cons hspace (by decide) _

theorem Tail.length_pos {α : Type} {part : α → List Char → Prop} {close : Char} {as : List α}
    {raw : List Char} (h : Tail part close as raw) : 0 < raw.length := by
  cases h with
  | close => simp
  | comma =>
    simp only [List.length_append, List.length_cons]
    omega

/-! ## One turn of the loop -/

section
variable {α : Type} {part : Nat → List Char → Option (α × List Char)} {build : List α → Document}
  {close : Char}

/-- What one turn of the loop does: it ends, it reads a part behind a comma, or it reads the first
part. -/
theorem scanParts?_cases {fuel : Nat} {read : List α} {d : Document}
    (h : scanParts? part build close (fuel + 1) read text = some (d, rest)) :
    (∃ space, Blank space ∧ text = space ++ close :: rest ∧ d = build read.reverse) ∨
      (read ≠ [] ∧ ∃ space front a behind, Blank space ∧ text = space ++ ',' :: front ∧
        part fuel front = some (a, behind) ∧
        scanParts? part build close fuel (a :: read) behind = some (d, rest)) ∨
      (read = [] ∧ ∃ a behind, part fuel text = some (a, behind) ∧
        scanParts? part build close fuel [a] behind = some (d, rest)) := by
  obtain ⟨space, hspace, htext⟩ := exists_blank text
  have hfirst : (if read.isEmpty then (part fuel text).bind (fun (a, tail) =>
        scanParts? part build close fuel (a :: read) tail) else none) = some (d, rest) →
      read = [] ∧ ∃ a behind, part fuel text = some (a, behind) ∧
        scanParts? part build close fuel [a] behind = some (d, rest) := by
    intro hread
    split at hread
    · rename_i hempty
      obtain rfl := List.isEmpty_iff.mp hempty
      obtain ⟨⟨a, behind⟩, hscan, hloop⟩ := Option.bind_eq_some_iff.mp hread
      exact ⟨rfl, a, behind, hscan, hloop⟩
    · cases hread
  rw [scanParts?] at h
  dsimp only at h
  split at h
  · rename_i c front hskip
    rw [hskip] at htext
    split at h
    · rename_i hc
      cases h
      exact .inl ⟨space, hspace, by rwa [← hc], rfl⟩
    split at h
    · rename_i hc
      split at h
      · cases h
      rename_i hread
      obtain ⟨⟨a, behind⟩, hscan, hloop⟩ := Option.bind_eq_some_iff.mp h
      exact .inr (.inl ⟨fun hnil => hread (List.isEmpty_iff.mpr hnil), space, front, a, behind,
        hspace, by rwa [← hc], hscan, hloop⟩)
    · exact .inr (.inr (hfirst h))
  · exact .inr (.inr (hfirst h))

/-- The loop ends at the closing character. -/
theorem scanParts?_close (hclose : Closes close) {space : List Char} (hspace : Blank space)
    {fuel : Nat} (hfuel : 2 * (space ++ [close]).length ≤ fuel) (read : List α) :
    scanParts? part build close fuel read (space ++ [close] ++ rest)
      = some (build read.reverse, rest) := by
  rw [List.length_append, List.length_singleton] at hfuel
  obtain ⟨fuel, rfl⟩ := Nat.exists_eq_add_one_of_ne_zero (show fuel ≠ 0 by omega)
  rw [scanParts?, List.append_assoc, List.singleton_append,
    skipSpace_blank_cons hspace hclose.not_space]
  simp

end

/-! ## Where a value starts -/

theorem scanValue?_array {fuel depth : Nat} (h : skipSpace text = '[' :: rest) :
    scanValue? (fuel + 1) depth text =
      if depth = 0 then none
      else scanParts? (fun fuel => scanValue? fuel (depth - 1)) .array ']' fuel [] rest := by
  rw [scanValue?, h, ← scanItems?_eq]
  rfl

theorem scanValue?_object {fuel depth : Nat} (h : skipSpace text = '\x7b' :: rest) :
    scanValue? (fuel + 1) depth text =
      if depth = 0 then none
      else scanParts? (scanMember? fun fuel => scanValue? fuel (depth - 1)) .object '\x7d' fuel []
        rest := by
  rw [scanValue?, h, ← scanMembers?_eq]
  rfl

theorem scanValue?_leaf {fuel depth : Nat} (harray : ∀ rest, skipSpace text ≠ '[' :: rest)
    (hobject : ∀ rest, skipSpace text ≠ '\x7b' :: rest) :
    scanValue? (fuel + 1) depth text = scanLeaf? (skipSpace text) := by
  rw [scanValue?]
  split
  case h_6 tail h => exact absurd h (harray tail)
  case h_7 tail h => exact absurd h (hobject tail)
  case h_8 => simp [scanLeaf?, *]
  all_goals
    rename_i h
    rw [h]
    rfl

/-- What reading a value comes to: a value that holds no others, or the loop one level down. -/
theorem scanValue?_cases {fuel depth : Nat} {d : Document}
    (h : scanValue? fuel depth text = some (d, rest)) :
    scanLeaf? (skipSpace text) = some (d, rest) ∨
      ∃ below fuel inside, depth = below + 1 ∧
        (skipSpace text = '[' :: inside ∧
            scanParts? (fun fuel => scanValue? fuel below) .array ']' fuel [] inside
              = some (d, rest) ∨
          skipSpace text = '\x7b' :: inside ∧
            scanParts? (scanMember? fun fuel => scanValue? fuel below) .object '\x7d' fuel [] inside
              = some (d, rest)) := by
  cases fuel with
  | zero => rw [scanValue?] at h; cases h
  | succ fuel =>
    by_cases harray : ∃ inside, skipSpace text = '[' :: inside
    · obtain ⟨inside, hskip⟩ := harray
      rw [scanValue?_array hskip] at h
      split at h
      · cases h
      · exact .inr ⟨depth - 1, fuel, inside, by omega, .inl ⟨hskip, h⟩⟩
    by_cases hobject : ∃ inside, skipSpace text = '\x7b' :: inside
    · obtain ⟨inside, hskip⟩ := hobject
      rw [scanValue?_object hskip] at h
      split at h
      · cases h
      · exact .inr ⟨depth - 1, fuel, inside, by omega, .inr ⟨hskip, h⟩⟩
    · rw [not_exists] at harray hobject
      rw [scanValue?_leaf harray hobject] at h
      exact .inl h

/-- The first character of a value that holds no others. -/
theorem exists_cons_of_leaf {d : Document} {raw : List Char} (h : Leaf d raw) :
    ∃ c tail, raw = c :: tail ∧ c ∉ '[' :: '\x7b' :: separators := by
  cases h with
  | null => exact ⟨'n', _, rfl, by decide⟩
  | yes => exact ⟨'t', _, rfl, by decide⟩
  | no => exact ⟨'f', _, rfl, by decide⟩
  | string => exact ⟨'"', _, rfl, by decide⟩
  | number h =>
    cases h with
    | minus => exact ⟨'-', _, rfl, by decide⟩
    | plain _ h =>
      obtain ⟨c, tail, hraw, hc⟩ := exists_cons_of_unsigned h
      have hall : ∀ c ∈ '[' :: '\x7b' :: separators, isDigit c = false := by
        simp [separators, isDigit]
      exact ⟨c, tail, hraw, fun hmem => by simp [hall c hmem] at hc⟩

theorem starts_of_leaf {d : Document} {raw : List Char} (h : Leaf d raw) :
    ∃ c tail, raw = c :: tail ∧ c ∉ separators := by
  obtain ⟨c, tail, hraw, hc⟩ := exists_cons_of_leaf h
  exact ⟨c, tail, hraw, fun hmem => hc (by simp [hmem])⟩

/-- A value that holds no others is read at any depth. -/
theorem scanValue?_of_leaf {fuel depth : Nat} {d : Document} {raw : List Char} (h : Leaf d raw)
    (hrest : EndsNumber rest) (hfuel : 2 * raw.length ≤ fuel)
    (hskip : skipSpace text = raw ++ rest) :
    scanValue? fuel depth text = some (d, rest) := by
  obtain ⟨c, tail, hraw, hc⟩ := exists_cons_of_leaf h
  have hfirst : ∀ c' rest', skipSpace text = c' :: rest' → c' ∉ '[' :: '\x7b' :: separators := by
    intro c' rest' htext
    rw [hskip, hraw, List.cons_append] at htext
    rwa [← (List.cons.inj htext).1]
  rw [hraw, List.length_cons] at hfuel
  obtain ⟨fuel, rfl⟩ := Nat.exists_eq_add_one_of_ne_zero (show fuel ≠ 0 by omega)
  rw [scanValue?_leaf (fun rest' htext => hfirst _ _ htext (by simp))
    (fun rest' htext => hfirst _ _ htext (by simp)), hskip]
  exact scanLeaf?_of_leaf h hrest

/-! ## Scanners that agree with the grammar -/

/-- A scanner reads what a relation says is written, all of it and nothing else. -/
structure Agrees {α : Type} (scan : Nat → List Char → Option (α × List Char))
    (written : α → List Char → Prop) : Prop where
  /-- What is read is so written. -/
  sound {fuel : Nat} {text rest : List Char} {a : α} (h : scan fuel text = some (a, rest)) :
    ∃ raw, written a raw ∧ text = raw ++ rest
  /-- What is so written is read in front of what no number goes on in. -/
  complete {fuel : Nat} {raw rest : List Char} {a : α} (h : written a raw)
    (hrest : EndsNumber rest) (hfuel : 2 * raw.length ≤ fuel) :
    scan fuel (raw ++ rest) = some (a, rest)
  /-- What is so written can be told from what stands between parts. -/
  starts {raw : List Char} {a : α} (h : written a raw) : Starts raw

namespace Agrees

section
variable {α : Type} {part : Nat → List Char → Option (α × List Char)}
  {written : α → List Char → Prop} {build : List α → Document} {close : Char}

/-- What the loop reads is written as the grammar says: as what follows parts if there were some
before it, and otherwise as all of them. -/
theorem exists_parts (hpart : Agrees part written) {fuel : Nat} {read : List α} {d : Document}
    (h : scanParts? part build close fuel read text = some (d, rest)) :
    ∃ as raw, d = build (read.reverse ++ as) ∧ text = raw ++ rest ∧
      (read = [] → Sequence written close as raw) ∧ (read ≠ [] → Tail written close as raw) := by
  induction fuel generalizing read text with
  | zero => cases h
  | succ fuel ih =>
    obtain ⟨space, hspace, rfl, rfl⟩ | ⟨hread, space, front, a, behind, hspace, rfl, hscan, hloop⟩ |
      ⟨rfl, a, behind, hscan, hloop⟩ := scanParts?_cases h
    · exact ⟨[], space ++ [close], by simp, by simp, fun _ => .empty hspace, fun _ => .close hspace⟩
    · obtain ⟨raw, hraw, rfl⟩ := hpart.sound hscan
      obtain ⟨as, tail, rfl, rfl, -, htail⟩ := ih hloop
      exact ⟨a :: as, space ++ ',' :: (raw ++ tail), by simp, by simp,
        fun hnil => absurd hnil hread, fun _ => .comma hspace hraw (htail (by simp))⟩
    · obtain ⟨raw, hraw, rfl⟩ := hpart.sound hscan
      obtain ⟨as, tail, rfl, rfl, -, htail⟩ := ih hloop
      exact ⟨a :: as, raw ++ tail, by simp, by simp, fun _ => .first hraw (htail (by simp)),
        fun hne => absurd rfl hne⟩

/-- Parts behind others are read by the loop. -/
theorem scanParts?_of_tail (hpart : Agrees part written) (hclose : Closes close) {as : List α}
    {raw : List Char} (h : Tail written close as raw) {fuel : Nat} {read : List α}
    (hread : read ≠ []) (hfuel : 2 * raw.length ≤ fuel) :
    scanParts? part build close fuel read (raw ++ rest)
      = some (build (read.reverse ++ as), rest) := by
  induction h generalizing fuel read with
  | close hspace =>
    rw [List.append_nil]
    exact scanParts?_close hclose hspace hfuel read
  | @comma space text tail a as hspace ha has ih =>
    simp only [List.length_append, List.length_cons] at hfuel
    obtain ⟨fuel, rfl⟩ := Nat.exists_eq_add_one_of_ne_zero (show fuel ≠ 0 by omega)
    have hskip : skipSpace (space ++ ',' :: (text ++ tail) ++ rest)
        = ',' :: (text ++ (tail ++ rest)) := by
      rw [List.append_assoc, List.cons_append, skipSpace_blank_cons hspace (by decide),
        List.append_assoc]
    have hscan : part fuel (text ++ (tail ++ rest)) = some (a, tail ++ rest) :=
      hpart.complete ha (has.endsNumber hclose rest) (by omega)
    have hloop : scanParts? part build close fuel (a :: read) (tail ++ rest)
        = some (build ((a :: read).reverse ++ as), rest) :=
      ih (by simp) (by omega)
    rw [scanParts?, hskip]
    simp [hclose.ne_comma.symm, hread, hscan, hloop]

/-- **Lists and objects are read as they are written**, if their parts are. -/
theorem scanParts?_of_sequence (hpart : Agrees part written) (hclose : Closes close) {as : List α}
    {raw : List Char} (h : Sequence written close as raw) {fuel : Nat}
    (hfuel : 2 * raw.length ≤ fuel) :
    scanParts? part build close fuel [] (raw ++ rest) = some (build as, rest) := by
  cases h with
  | empty hspace => exact scanParts?_close hclose hspace hfuel []
  | @first text tail a as ha has =>
    have htext := (hpart.starts ha).length_pos
    have htail := has.length_pos
    simp only [List.length_append] at hfuel
    obtain ⟨fuel, rfl⟩ := Nat.exists_eq_add_one_of_ne_zero (show fuel ≠ 0 by omega)
    have hscan : part fuel (text ++ (tail ++ rest)) = some (a, tail ++ rest) :=
      hpart.complete ha (has.endsNumber hclose rest) (by omega)
    have hloop : scanParts? part build close fuel [a] (tail ++ rest)
        = some (build ([a] ++ as), rest) :=
      hpart.scanParts?_of_tail hclose has (by simp) (by omega)
    -- the first part is told from the end by its first character
    obtain ⟨space, c, behind, hspace, hc, rfl⟩ := hpart.starts ha
    have hskip : skipSpace (space ++ c :: behind ++ (tail ++ rest))
        = c :: (behind ++ (tail ++ rest)) := by
      rw [List.append_assoc, List.cons_append, skipSpace_blank_cons hspace (isSpace_of_not_mem hc)]
    have hcclose : c ≠ close := fun h => hc (h ▸ hclose.mem)
    have hcomma : c ≠ ',' := fun h => hc (h ▸ by decide)
    rw [List.append_assoc, scanParts?, hskip]
    simp only [if_neg hcclose, if_neg hcomma, hscan, List.isEmpty_nil, if_true]
    exact hloop

end

/-! ## Behind white space -/

/-- A scanner that only looks at what stands behind the white space at the front. -/
theorem spaced {α : Type} {scan : Nat → List Char → Option (α × List Char)}
    {core : α → List Char → Prop}
    (hsound : ∀ {fuel text rest a}, scan fuel text = some (a, rest) →
      ∃ raw, core a raw ∧ skipSpace text = raw ++ rest)
    (hcomplete : ∀ {fuel text rest a raw}, core a raw → EndsNumber rest → 2 * raw.length ≤ fuel →
      skipSpace text = raw ++ rest → scan fuel text = some (a, rest))
    (hstarts : ∀ {a raw}, core a raw → ∃ c tail, raw = c :: tail ∧ c ∉ separators) :
    Agrees scan (Spaced core) where
  sound := by
    intro fuel text rest a h
    obtain ⟨space, hspace, htext⟩ := exists_blank text
    obtain ⟨raw, hraw, hskip⟩ := hsound h
    rw [hskip] at htext
    exact ⟨space ++ raw, ⟨space, raw, hspace, hraw, rfl⟩, by simpa using htext⟩
  complete := by
    rintro fuel _ rest a ⟨space, raw, hspace, hraw, rfl⟩ hrest hfuel
    rw [List.length_append] at hfuel
    refine hcomplete hraw hrest (by omega) ?_
    obtain ⟨c, tail, rfl, hc⟩ := hstarts hraw
    rw [List.append_assoc, List.cons_append, skipSpace_blank_cons hspace (isSpace_of_not_mem hc)]
  starts := by
    rintro _ a ⟨space, raw, hspace, hraw, rfl⟩
    obtain ⟨c, tail, rfl, hc⟩ := hstarts hraw
    exact ⟨space, c, tail, hspace, hc, rfl⟩

/-! ## Members -/

/-- **Members are read as they are written**, if their values are. -/
theorem member {scan : Nat → List Char → Option (Document × List Char)}
    {value : Document → List Char → Prop} (hvalue : Agrees scan value) :
    Agrees (scanMember? scan) (Spaced (Member value)) := by
  refine spaced ?_ ?_ ?_
  · intro fuel text rest entry h
    unfold scanMember? at h
    split at h
    · rename_i behindQuote hskip
      split at h
      · cases h
      rename_i name behindName hname
      obtain ⟨raw, hraw, rfl⟩ := scanString?_eq_some_iff.mp hname
      obtain ⟨space, hspace, hbehind⟩ := exists_blank behindName
      split at h
      · rename_i behindColon hcolon
        obtain ⟨⟨d, tail⟩, hscan, hentry⟩ := Option.map_eq_some_iff.mp h
        cases hentry
        obtain ⟨text, htext, rfl⟩ := hvalue.sound hscan
        refine ⟨_, .colon hraw hspace htext, ?_⟩
        rw [hskip, hbehind, hcolon]
        simp
      · cases h
    · cases h
  · rintro fuel text rest entry raw ⟨hname, hspace, htext⟩ hrest hfuel hskip
    rename_i name d raw space core
    simp only [List.length_cons, List.length_append] at hfuel
    simp only [List.cons_append, List.append_assoc] at hskip
    have hstring : scanString? (raw ++ '"' :: (space ++ ':' :: (core ++ rest)))
        = some (name, space ++ ':' :: (core ++ rest)) :=
      scanString?_eq_some_iff.mpr ⟨raw, hname, rfl⟩
    have hcolon : skipSpace (space ++ ':' :: (core ++ rest)) = ':' :: (core ++ rest) :=
      skipSpace_blank_cons hspace (by decide) _
    have hscan : scan fuel (core ++ rest) = some (d, rest) :=
      hvalue.complete htext hrest (by omega)
    simp only [scanMember?, hskip, hstring, hcolon, hscan]
    rfl
  · rintro entry raw ⟨-, -, -⟩
    exact ⟨'"', _, rfl, by decide⟩

/-! ## Values -/

/-- Values are read as they are written one level up, if they are at one. -/
theorem level {depth : Nat} {value : Document → List Char → Prop}
    (hvalue : Agrees (fun fuel => scanValue? fuel depth) value) :
    Agrees (fun fuel => scanValue? fuel (depth + 1)) (Spaced (Level value)) := by
  refine spaced ?_ ?_ ?_
  · intro fuel text rest d h
    obtain h | ⟨below, fuel, inside, hdepth, ⟨hskip, h⟩ | ⟨hskip, h⟩⟩ := scanValue?_cases h
    · obtain ⟨raw, hraw, hskip⟩ := exists_leaf h
      exact ⟨raw, .leaf hraw, hskip⟩
    · obtain rfl := Nat.succ.inj hdepth
      obtain ⟨items, raw, rfl, rfl, hitems, -⟩ := hvalue.exists_parts h
      exact ⟨'[' :: raw, .array (hitems rfl), hskip⟩
    · obtain rfl := Nat.succ.inj hdepth
      obtain ⟨members, raw, rfl, rfl, hmembers, -⟩ := hvalue.member.exists_parts h
      exact ⟨'\x7b' :: raw, .object (hmembers rfl), hskip⟩
  · intro fuel text rest d raw h hrest hfuel hskip
    cases h with
    | leaf h => exact scanValue?_of_leaf h hrest hfuel hskip
    | array h =>
      rw [List.length_cons] at hfuel
      obtain ⟨fuel, rfl⟩ := Nat.exists_eq_add_one_of_ne_zero (show fuel ≠ 0 by omega)
      rw [scanValue?_array hskip, if_neg (by omega)]
      exact hvalue.scanParts?_of_sequence closes_bracket h (by omega)
    | object h =>
      rw [List.length_cons] at hfuel
      obtain ⟨fuel, rfl⟩ := Nat.exists_eq_add_one_of_ne_zero (show fuel ≠ 0 by omega)
      rw [scanValue?_object hskip, if_neg (by omega)]
      exact hvalue.member.scanParts?_of_sequence closes_brace h (by omega)
  · intro d raw h
    cases h with
    | leaf h => exact starts_of_leaf h
    | array => exact ⟨'[', _, rfl, by decide⟩
    | object => exact ⟨'\x7b', _, rfl, by decide⟩

/-- **Values are read as they are written**, to whatever depth they are nested. -/
theorem value (depth : Nat) : Agrees (fun fuel => scanValue? fuel depth) (Value depth) := by
  induction depth with
  | zero =>
    refine spaced ?_ scanValue?_of_leaf starts_of_leaf
    intro fuel text rest d h
    obtain h | ⟨below, _, _, hdepth, -⟩ := scanValue?_cases h
    · exact exists_leaf h
    · cases hdepth
  | succ depth ih => exact ih.level

end Agrees

/-- **A text is read as the document that it writes**, and only if it writes one: reading from the
front, with fuel for twice its characters, finds the one division into parts that the grammar
allows. -/
theorem parse?_eq_some_iff {text : String} {d : Document} :
    parse? text = some d ↔ Writes d text.toList := by
  constructor
  · intro h
    rw [parse?] at h
    split at h
    · rename_i root rest hscan
      obtain ⟨value, hvalue, htext⟩ := (Agrees.value maxDepth).sound hscan
      split at h
      · rename_i hrest
        cases h
        exact ⟨value, rest, hvalue, blank_iff_skipSpace.mpr (List.isEmpty_iff.mp hrest), htext⟩
      · cases h
    · cases h
  · rintro ⟨value, space, hvalue, hspace, htext⟩
    have hfuel : 2 * value.length ≤ 2 * (value ++ space).length + 2 := by
      rw [List.length_append]
      omega
    have hscan := (Agrees.value maxDepth).complete hvalue (endsNumber_blank hspace) hfuel
    rw [parse?, htext]
    simp only [hscan, blank_iff_skipSpace.mp hspace, List.isEmpty_nil, if_true]

/-- No text writes two documents. -/
theorem Writes.unique {text : String} {d other : Document} (h : Writes d text.toList)
    (hother : Writes other text.toList) : d = other := by
  rw [← parse?_eq_some_iff] at h hother
  exact Option.some.inj (h.symm.trans hother)

end Json
end WebSso
