import Mathlib.Data.List.TakeDrop
import Mathlib.Data.List.TakeWhile
import WebSso.Proofs.Json.Grammar

/-!
# Strings and numbers are read as they are written

Each scanner for a part that holds no other values is held against the grammar in both directions.
What it reads is written as the grammar says; and what is so written is read in front of any rest,
as long as the rest cannot be taken for more of the same part.  Only a number has to fear that, as
it has no end of its own.

## What is here

* `Json.exists_blank`, `Json.skipSpace_blank`: white space is skipped, all of it and nothing else;
* `Json.scanString?_eq_some_iff`: a string is read up to its quote and no further;
* `Json.exists_unsigned`, `Json.scanNumber?_of_unsigned`, the same for a number;
* `Json.EndsNumber`, what a rest has to be like so that no number goes on in it;
* `Json.scanLeaf?`, the values that hold no others, with `Json.exists_leaf` and
  `Json.scanLeaf?_of_leaf`.
-/

set_option autoImplicit false
namespace WebSso
namespace Json

/-! ## White space -/

/-- What is skipped is white space. -/
theorem exists_blank (text : List Char) : ∃ space, Blank space ∧ text = space ++ skipSpace text :=
  ⟨text.takeWhile isSpace, fun _ hc => List.mem_takeWhile_imp hc,
    List.takeWhile_append_dropWhile.symm⟩

/-- All white space is skipped. -/
theorem skipSpace_blank {space : List Char} (h : Blank space) (rest : List Char) :
    skipSpace (space ++ rest) = skipSpace rest :=
  List.dropWhile_append_of_pos h

theorem skipSpace_cons {c : Char} (h : isSpace c = false) (rest : List Char) :
    skipSpace (c :: rest) = c :: rest := by
  rw [skipSpace, List.dropWhile_cons_of_neg (by simp [h])]

/-- White space in front of a character that is none is skipped up to it. -/
theorem skipSpace_blank_cons {space : List Char} {c : Char} (h : Blank space)
    (hc : isSpace c = false) (rest : List Char) :
    skipSpace (space ++ c :: rest) = c :: rest := by
  rw [skipSpace_blank h, skipSpace_cons hc]

/-- What is left is white space if nothing is left behind white space. -/
theorem blank_iff_skipSpace {text : List Char} : Blank text ↔ skipSpace text = [] :=
  List.dropWhile_eq_nil_iff.symm

/-! ## Strings -/

variable {text rest : List Char}

theorem scanUnit?_eq_some_iff {n : Nat} :
    scanUnit? text = some (n, rest) ↔ ∃ raw, CodeUnit raw n ∧ text = raw ++ rest := by
  constructor
  · intro h
    match text, h with
    | a :: b :: c :: d :: tail, h =>
      simp only [scanUnit?, bind, Option.bind_eq_some_iff, pure, Option.some.injEq,
        Prod.mk.injEq] at h
      obtain ⟨i, hi, j, hj, k, hk, l, hl, rfl, rfl⟩ := h
      exact ⟨[a, b, c, d], .digits hi hj hk hl, rfl⟩
  · rintro ⟨raw, ⟨ha, hb, hc, hd⟩, rfl⟩
    simp [scanUnit?, ha, hb, hc, hd]

/-- The character of an escape by code units. -/
theorem scanEscapedUnit?_eq_some_iff {c : Char} :
    scanEscapedUnit? text = some (c, rest) ↔
      ∃ raw, Escape ('u' :: raw) c ∧ text = raw ++ rest := by
  constructor
  · intro h
    simp only [scanEscapedUnit?, bind, Option.bind_eq_some_iff] at h
    obtain ⟨⟨first, tail⟩, hfirst, h⟩ := h
    obtain ⟨raw, hraw, rfl⟩ := scanUnit?_eq_some_iff.mp hfirst
    split at h
    · cases h
    rename_i hlow
    split at h
    · rename_i hhigh
      cases h
      exact ⟨raw, .unit hraw (by simp only [IsHighSurrogate]; omega) hlow, rfl⟩
    rename_i hhigh
    split at h
    · rename_i hbehind
      simp only [Option.bind_eq_some_iff] at h
      obtain ⟨⟨second, tail⟩, hsecond, h⟩ := h
      obtain ⟨raw', hraw', rfl⟩ := scanUnit?_eq_some_iff.mp hsecond
      split at h
      · cases h
      rename_i hsecondLow
      obtain ⟨hpair, rfl⟩ := Prod.mk.inj (Option.some.inj h)
      rw [← hpair]
      refine ⟨raw ++ '\\' :: 'u' :: raw', .pair hraw hraw' ?_ ?_, by simpa using hbehind⟩
      · simp only [IsHighSurrogate]
        omega
      · simp only [IsLowSurrogate]
        omega
    · cases h
  · rintro ⟨raw, hraw, rfl⟩
    cases hraw with
    | letter h => simp [escapes] at h
    | unit h hhigh hlow =>
      have hscan : scanUnit? (raw ++ rest) = some (_, rest) :=
        scanUnit?_eq_some_iff.mpr ⟨raw, h, rfl⟩
      simp only [IsHighSurrogate, IsLowSurrogate] at hhigh hlow
      simp only [scanEscapedUnit?, hscan, bind, Option.bind_some]
      rw [if_neg hlow, if_pos (by omega)]
      rfl
    | @pair first second high low hfirst hsecond hhigh hlow =>
      have hscan : scanUnit? (first ++ '\\' :: 'u' :: second ++ rest) =
          some (high, '\\' :: 'u' :: (second ++ rest)) :=
        scanUnit?_eq_some_iff.mpr ⟨first, hfirst, by simp⟩
      have hscan' : scanUnit? (second ++ rest) = some (low, rest) :=
        scanUnit?_eq_some_iff.mpr ⟨second, hsecond, rfl⟩
      simp only [IsHighSurrogate, IsLowSurrogate] at hhigh hlow
      simp only [scanEscapedUnit?, hscan, hscan', bind, Option.bind_some]
      rw [if_neg (by omega), if_neg (by omega), if_neg (by omega)]
      rfl

theorem scanEscape?_eq_some_iff {c : Char} :
    scanEscape? text = some (c, rest) ↔ ∃ raw, Escape raw c ∧ text = raw ++ rest := by
  constructor
  · intro h
    unfold scanEscape? at h
    split at h
    case h_9 tail =>
      obtain ⟨raw, hraw, rfl⟩ := scanEscapedUnit?_eq_some_iff.mp h
      exact ⟨'u' :: raw, hraw, rfl⟩
    case h_10 => cases h
    all_goals
      cases h
      exact ⟨[_], .letter (by simp [escapes]), rfl⟩
  · rintro ⟨raw, hraw, rfl⟩
    cases hraw with
    | letter h =>
      simp only [escapes, List.mem_cons, List.not_mem_nil, or_false, Prod.mk.injEq] at h
      rcases h with h | h | h | h | h | h | h | h <;> (obtain ⟨rfl, rfl⟩ := h; rfl)
    | unit h hhigh hlow => exact scanEscapedUnit?_eq_some_iff.mpr ⟨_, .unit h hhigh hlow, rfl⟩
    | pair hfirst hsecond hhigh hlow =>
      exact scanEscapedUnit?_eq_some_iff.mpr ⟨_, .pair hfirst hsecond hhigh hlow, rfl⟩

/-- What is read onto a string is written up to a quote. -/
theorem spells_of_scanStringOnto {fuel : Nat} {read : List Char} {s : String}
    (h : scanStringOnto fuel read text = some (s, rest)) :
    ∃ raw chars, Spells raw chars ∧ text = raw ++ '"' :: rest ∧
      s.toList = read.reverse ++ chars := by
  induction fuel generalizing read text with
  | zero => cases h
  | succ fuel ih =>
    match text with
    | [] => cases h
    | c :: tail =>
      rw [scanStringOnto] at h
      split at h
      · rename_i hc
        cases h
        exact ⟨[], [], .nil, by rw [hc]; rfl, by simp⟩
      rename_i hquote
      split at h
      · rename_i hc
        split at h
        · rename_i escaped behind hescape
          obtain ⟨raw, hraw, rfl⟩ := scanEscape?_eq_some_iff.mp hescape
          obtain ⟨text, chars, htext, rfl, hs⟩ := ih h
          exact ⟨'\\' :: (raw ++ text), escaped :: chars, .escape hraw htext, by simp [hc],
            by simp [hs]⟩
        · cases h
      rename_i hslash
      split at h
      · cases h
      rename_i hcontrol
      obtain ⟨text, chars, htext, rfl, hs⟩ := ih h
      exact ⟨c :: text, c :: chars, .plain hquote hslash (by omega) htext, rfl, by simp [hs]⟩

/-- What is written up to a quote is read onto a string, if there is fuel for each character. -/
theorem scanStringOnto_of_spells {raw chars : List Char} (h : Spells raw chars) {fuel : Nat}
    (hfuel : raw.length < fuel) (read : List Char) :
    scanStringOnto fuel read (raw ++ '"' :: rest)
      = some (String.ofList (read.reverse ++ chars), rest) := by
  induction h generalizing fuel read with
  | nil =>
    obtain ⟨fuel, rfl⟩ := Nat.exists_eq_add_of_lt hfuel
    simp [scanStringOnto]
  | @plain raw chars c hquote hslash hcontrol htext ih =>
    obtain ⟨fuel, rfl⟩ := Nat.exists_eq_add_one_of_ne_zero (Nat.ne_zero_of_lt hfuel)
    rw [List.cons_append, scanStringOnto, if_neg hquote, if_neg hslash, if_neg (by omega),
      ih (by simpa using hfuel)]
    simp
  | @escape tail chars raw c hraw htext ih =>
    obtain ⟨fuel, rfl⟩ := Nat.exists_eq_add_one_of_ne_zero (Nat.ne_zero_of_lt hfuel)
    have hscan : scanEscape? (raw ++ tail ++ '"' :: rest) = some (c, tail ++ '"' :: rest) :=
      scanEscape?_eq_some_iff.mpr ⟨raw, hraw, by simp⟩
    have htail : tail.length < fuel := by
      simp only [List.length_cons, List.length_append] at hfuel
      omega
    rw [List.cons_append, scanStringOnto, if_neg (by decide), if_pos rfl, hscan]
    simp [ih htail]

/-- **A string is read up to its quote**, and every string is. -/
theorem scanString?_eq_some_iff {s : String} :
    scanString? text = some (s, rest) ↔ ∃ raw, Spells raw s.toList ∧ text = raw ++ '"' :: rest := by
  constructor
  · intro h
    obtain ⟨raw, chars, hraw, htext, hs⟩ := spells_of_scanStringOnto h
    exact ⟨raw, by rwa [hs], htext⟩
  · rintro ⟨raw, hraw, rfl⟩
    rw [scanString?, scanStringOnto_of_spells hraw (by simp)]
    simp

/-! ## Numbers -/

/-- Digits are read as far as they go. -/
theorem scanDigits?_eq_some_iff {digits : List Char} :
    scanDigits? text = some (digits, rest) ↔
      Digits digits ∧ text = digits ++ rest ∧ ∀ c ∈ rest.head?, isDigit c = false := by
  rw [scanDigits?, List.span_eq_takeWhile_dropWhile]
  constructor
  · intro h
    split at h
    · cases h
    rename_i digits rest hne hspan
    cases h
    obtain ⟨rfl, rfl⟩ := Prod.mk.inj hspan
    refine ⟨⟨hne, fun c hc => List.mem_takeWhile_imp hc⟩,
      List.takeWhile_append_dropWhile.symm, fun c hc => ?_⟩
    have hstop := List.head?_dropWhile_not isDigit text
    rwa [Option.mem_def.mp hc] at hstop
  · rintro ⟨⟨hne, hdigits⟩, rfl, hstop⟩
    have htake : rest.takeWhile isDigit = [] ∧ rest.dropWhile isDigit = rest := by
      cases rest with
      | nil => simp
      | cons c rest => simp [hstop c rfl]
    rw [List.takeWhile_append_of_pos hdigits, List.dropWhile_append_of_pos hdigits, htake.1,
      htake.2, List.append_nil]
    cases digits with
    | nil => exact absurd rfl hne
    | cons c digits => rfl

/-- The digits before a point are read as far as they go. -/
theorem scanWhole?_eq_some_iff {whole : List Char} :
    scanWhole? text = some (whole, rest) ↔
      Whole whole ∧ text = whole ++ rest ∧ ∀ c ∈ rest.head?, isDigit c = false := by
  unfold scanWhole?
  split
  · rename_i c tail
    constructor
    · intro h
      split at h
      · cases h
      rename_i hc
      cases h
      refine ⟨⟨⟨by simp, by simp [isDigit]⟩, by simp⟩, rfl, ?_⟩
      simpa using hc
    · rintro ⟨⟨⟨hne, hdigits⟩, hzero⟩, htext, hstop⟩
      obtain ⟨d, whole, rfl⟩ := List.exists_cons_of_ne_nil hne
      obtain ⟨rfl, htext⟩ := List.cons.inj htext
      obtain ⟨-, rfl⟩ := List.cons.inj (hzero rfl)
      cases htext
      have hc : isDigit c = false := hstop c rfl
      simp [hc]
  · rename_i hzero
    rw [scanDigits?_eq_some_iff]
    constructor
    · rintro ⟨hdigits, rfl, hstop⟩
      refine ⟨⟨hdigits, fun hhead => ?_⟩, rfl, hstop⟩
      obtain ⟨tail, rfl⟩ := List.head?_eq_some_iff.mp hhead
      cases tail with
      | nil => rfl
      | cons c tail => exact absurd rfl (hzero c (tail ++ rest))
    · rintro ⟨hwhole, htext⟩
      exact ⟨hwhole.1, htext⟩

theorem exists_fraction {fraction : List Char} (h : scanFraction? text = some (fraction, rest)) :
    ∃ raw, Fraction fraction raw ∧ text = raw ++ rest := by
  unfold scanFraction? at h
  split at h
  · obtain ⟨hdigits, rfl, -⟩ := scanDigits?_eq_some_iff.mp h
    exact ⟨_, .point hdigits, rfl⟩
  · cases h
    exact ⟨[], .none, rfl⟩

theorem scanFraction?_of_fraction {fraction raw : List Char} (h : Fraction fraction raw)
    (hrest : ∀ c ∈ rest.head?, isDigit c = false ∧ c ≠ '.') :
    scanFraction? (raw ++ rest) = some (fraction, rest) := by
  cases h with
  | none =>
    cases rest with
    | nil => rfl
    | cons c rest =>
      unfold scanFraction?
      split
      · rename_i htext
        exact absurd (List.cons.inj htext).1 (hrest c rfl).2
      · rfl
  | point h =>
    exact scanDigits?_eq_some_iff.mpr ⟨h, rfl, fun c hc => (hrest c hc).1⟩

theorem exists_exponent {exponent : Option (Bool × List Char)}
    (h : scanExponent? text = some (exponent, rest)) :
    ∃ raw, Exponent exponent raw ∧ text = raw ++ rest := by
  unfold scanExponent? at h
  split at h
  · rename_i c tail
    split at h
    · rename_i hletter
      -- the sign that was read, with the digits behind it
      obtain ⟨negative, sign, behind, hsign, rfl, hread⟩ : ∃ negative sign behind,
          ExponentSign negative sign ∧ tail = sign ++ behind ∧
          (scanDigits? behind).map (fun scanned => (some (negative, scanned.1), scanned.2))
            = some (exponent, rest) := by
        split at h
        rename_i hsplit
        split at hsplit
        · cases hsplit
          exact ⟨false, ['+'], _, .plus, rfl, h⟩
        · cases hsplit
          exact ⟨true, ['-'], _, .minus, rfl, h⟩
        · cases hsplit
          exact ⟨false, [], _, .none, rfl, h⟩
      obtain ⟨⟨digits, rest⟩, hscan, hpair⟩ := Option.map_eq_some_iff.mp hread
      cases hpair
      obtain ⟨hdigits, rfl, -⟩ := scanDigits?_eq_some_iff.mp hscan
      exact ⟨_, .letter hletter hsign hdigits, by simp⟩
    · cases h
      exact ⟨[], .none, rfl⟩
  · cases h
    exact ⟨[], .none, rfl⟩

theorem scanExponent?_of_exponent {exponent : Option (Bool × List Char)} {raw : List Char}
    (h : Exponent exponent raw)
    (hrest : ∀ c ∈ rest.head?, isDigit c = false ∧ c ≠ 'e' ∧ c ≠ 'E') :
    scanExponent? (raw ++ rest) = some (exponent, rest) := by
  cases h with
  | none =>
    cases rest with
    | nil => rfl
    | cons c rest =>
      have hletter : ¬ (c = 'e' ∨ c = 'E') := by
        simpa using (hrest c rfl).2
      simp only [List.nil_append, scanExponent?, if_neg hletter]
  | @letter letter negative sign digits hletter hsign hdigits =>
    have hscan : scanDigits? (digits ++ rest) = some (digits, rest) :=
      scanDigits?_eq_some_iff.mpr ⟨hdigits, rfl, fun c hc => (hrest c hc).1⟩
    simp only [List.cons_append, List.append_assoc, scanExponent?, if_pos hletter]
    cases hsign with
    | plus => simp [hscan]
    | minus => simp [hscan]
    | none =>
      -- a digit is no sign
      obtain ⟨c, digits, rfl⟩ := List.exists_cons_of_ne_nil hdigits.1
      have hc : isDigit c = true := hdigits.2 c (List.mem_cons_self ..)
      have hplus : c ≠ '+' := by rintro rfl; cases hc
      have hminus : c ≠ '-' := by rintro rfl; cases hc
      rw [List.cons_append] at hscan
      simp [hscan, hplus, hminus]

/-- What no number goes on in: it is at its end, or goes on with what is no part of a number. -/
def EndsNumber (rest : List Char) : Prop :=
  ∀ c ∈ rest.head?, isDigit c = false ∧ c ≠ '.' ∧ c ≠ 'e' ∧ c ≠ 'E'

theorem head?_fraction {fraction raw : List Char} (h : Fraction fraction raw) {c : Char}
    (hc : c ∈ (raw ++ rest).head?) : c = '.' ∨ c ∈ rest.head? := by
  cases h with
  | none => exact .inr hc
  | point => exact .inl (Option.some.inj hc).symm

theorem head?_exponent {exponent : Option (Bool × List Char)} {raw : List Char}
    (h : Exponent exponent raw) {c : Char} (hc : c ∈ (raw ++ rest).head?) :
    (c = 'e' ∨ c = 'E') ∨ c ∈ rest.head? := by
  cases h with
  | none => exact .inr hc
  | letter hletter =>
    obtain rfl := Option.some.inj hc
    exact .inl hletter

/-- What is read as a number is written as one. -/
theorem exists_unsigned {negative : Bool} {n : Number}
    (h : scanNumber? negative text = some (n, rest)) :
    ∃ (t : NumberText) (raw : List Char), t.negative = negative ∧ Unsigned t raw ∧
      t.number? = some n ∧ text = raw ++ rest := by
  simp only [scanNumber?, bind, Option.bind_eq_some_iff] at h
  obtain ⟨⟨whole, behindWhole⟩, hscanWhole, ⟨fraction, behindFraction⟩, hscanFraction,
    ⟨exponent, behindExponent⟩, hscanExponent, number, hnumber, hread⟩ := h
  cases hread
  obtain ⟨hwhole, rfl, -⟩ := scanWhole?_eq_some_iff.mp hscanWhole
  obtain ⟨fractionText, hfraction, rfl⟩ := exists_fraction hscanFraction
  obtain ⟨exponentText, hexponent, rfl⟩ := exists_exponent hscanExponent
  exact ⟨⟨negative, whole, fraction, exponent⟩, _, rfl,
    ⟨_, _, hwhole, hfraction, hexponent, rfl⟩, hnumber, by simp⟩

/-- **A number is read in front of what it does not go on in.** -/
theorem scanNumber?_of_unsigned {t : NumberText} {raw : List Char} {n : Number}
    (h : Unsigned t raw) (hn : t.number? = some n) (hrest : EndsNumber rest) :
    scanNumber? t.negative (raw ++ rest) = some (n, rest) := by
  obtain ⟨fraction, exponent, hwhole, hfraction, hexponent, rfl⟩ := h
  have hexponentScan : scanExponent? (exponent ++ rest) = some (t.exponent, rest) :=
    scanExponent?_of_exponent hexponent fun c hc => ⟨(hrest c hc).1, (hrest c hc).2.2⟩
  have hfractionScan : scanFraction? (fraction ++ (exponent ++ rest))
      = some (t.fraction, exponent ++ rest) := by
    refine scanFraction?_of_fraction hfraction fun c hc => ?_
    obtain (rfl | rfl) | hc := head?_exponent hexponent hc
    · decide
    · decide
    · exact ⟨(hrest c hc).1, (hrest c hc).2.1⟩
  have hwholeScan : scanWhole? (t.whole ++ (fraction ++ (exponent ++ rest)))
      = some (t.whole, fraction ++ (exponent ++ rest)) := by
    refine scanWhole?_eq_some_iff.mpr ⟨hwhole, rfl, fun c hc => ?_⟩
    obtain rfl | hc := head?_fraction hfraction hc
    · rfl
    obtain (rfl | rfl) | hc := head?_exponent hexponent hc
    · rfl
    · rfl
    · exact (hrest c hc).1
  simp [scanNumber?, hwholeScan, hfractionScan, hexponentScan, hn]

/-! ## Values that hold no others -/

/-- A value that holds no others, at the front of a text. -/
def scanLeaf? (text : List Char) : Option (Document × List Char) :=
  match text with
  | 'n' :: rest => scanWord? ['u', 'l', 'l'] .null rest
  | 't' :: rest => scanWord? ['r', 'u', 'e'] (.bool true) rest
  | 'f' :: rest => scanWord? ['a', 'l', 's', 'e'] (.bool false) rest
  | '"' :: rest => leaf? .string (scanString? rest)
  | '-' :: rest => leaf? .number (scanNumber? true rest)
  | c :: rest => if isDigit c then leaf? .number (scanNumber? false (c :: rest)) else none
  | [] => none

theorem skipWord?_eq_some_iff {word : List Char} :
    skipWord? word text = some rest ↔ text = word ++ rest := by
  induction word generalizing text with
  | nil => simp [skipWord?]
  | cons w word ih =>
    cases text with
    | nil => simp [skipWord?]
    | cons c text =>
      by_cases hc : c = w
      · simp [skipWord?, hc, ih]
      · simp [skipWord?, hc]

theorem scanWord?_eq_some_iff {word : List Char} {value d : Document} :
    scanWord? word value text = some (d, rest) ↔ d = value ∧ text = word ++ rest := by
  rw [scanWord?, Option.map_eq_some_iff]
  simp only [skipWord?_eq_some_iff, Prod.mk.injEq]
  constructor
  · rintro ⟨tail, rfl, rfl, rfl⟩
    exact ⟨rfl, rfl⟩
  · rintro ⟨rfl, rfl⟩
    exact ⟨rest, rfl, rfl, rfl⟩

/-- What is read as a value without others is written as one. -/
theorem exists_leaf {d : Document} (h : scanLeaf? text = some (d, rest)) :
    ∃ raw, Leaf d raw ∧ text = raw ++ rest := by
  unfold scanLeaf? at h
  split at h
  · obtain ⟨rfl, rfl⟩ := scanWord?_eq_some_iff.mp h
    exact ⟨_, .null, rfl⟩
  · obtain ⟨rfl, rfl⟩ := scanWord?_eq_some_iff.mp h
    exact ⟨_, .yes, rfl⟩
  · obtain ⟨rfl, rfl⟩ := scanWord?_eq_some_iff.mp h
    exact ⟨_, .no, rfl⟩
  · obtain ⟨⟨s, rest⟩, hscan, hread⟩ := Option.map_eq_some_iff.mp h
    cases hread
    obtain ⟨raw, hraw, rfl⟩ := scanString?_eq_some_iff.mp hscan
    exact ⟨_, .string hraw, by simp⟩
  · obtain ⟨⟨n, rest⟩, hscan, hread⟩ := Option.map_eq_some_iff.mp h
    cases hread
    obtain ⟨t, raw, hsign, hraw, hn, rfl⟩ := exists_unsigned hscan
    exact ⟨_, .number (.minus hsign hraw) hn, rfl⟩
  · split at h
    · obtain ⟨⟨n, rest⟩, hscan, hread⟩ := Option.map_eq_some_iff.mp h
      cases hread
      obtain ⟨t, raw, hsign, hraw, hn, htext⟩ := exists_unsigned hscan
      exact ⟨_, .number (.plain hsign hraw) hn, htext⟩
    · cases h
  · cases h

theorem scanLeaf?_digit {c : Char} (hc : isDigit c = true) :
    scanLeaf? (c :: rest) = leaf? .number (scanNumber? false (c :: rest)) := by
  unfold scanLeaf?
  split
  case h_6 htext =>
    cases htext
    rw [if_pos hc]
  case h_7 htext => cases htext
  all_goals
    rename_i htext
    cases htext
    cases hc

/-- A number without a sign starts with a digit. -/
theorem exists_cons_of_unsigned {t : NumberText} {raw : List Char} (h : Unsigned t raw) :
    ∃ c tail, raw = c :: tail ∧ isDigit c = true := by
  obtain ⟨fraction, exponent, ⟨⟨hne, hdigits⟩, -⟩, -, -, rfl⟩ := h
  obtain ⟨c, whole, hwhole⟩ := List.exists_cons_of_ne_nil hne
  rw [hwhole] at hdigits
  exact ⟨c, _, by rw [hwhole]; rfl, hdigits c (List.mem_cons_self ..)⟩

/-- **A value without others is read in front of what no number goes on in.** -/
theorem scanLeaf?_of_leaf {d : Document} {raw : List Char} (h : Leaf d raw)
    (hrest : EndsNumber rest) : scanLeaf? (raw ++ rest) = some (d, rest) := by
  cases h with
  | null => rfl
  | yes => rfl
  | no => rfl
  | @string s text h =>
    have hscan : scanString? (text ++ '"' :: rest) = some (s, rest) :=
      scanString?_eq_some_iff.mpr ⟨text, h, rfl⟩
    simp [scanLeaf?, leaf?, hscan]
  | @number t text n h hn =>
    cases h with
    | minus hsign h =>
      have hscan := scanNumber?_of_unsigned h hn hrest
      rw [hsign] at hscan
      simp [scanLeaf?, leaf?, hscan]
    | plain hsign h =>
      have hscan := scanNumber?_of_unsigned h hn hrest
      obtain ⟨c, tail, rfl, hc⟩ := exists_cons_of_unsigned h
      rw [hsign, List.cons_append] at hscan
      rw [List.cons_append, scanLeaf?_digit hc, leaf?, hscan]
      rfl

end Json
end WebSso
