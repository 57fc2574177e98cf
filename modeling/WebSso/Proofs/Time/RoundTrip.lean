import WebSso.Proofs.Time.Dates
import WebSso.Proofs.Time.Range
import WebSso.Proofs.Time.Written

/-!
# Instants read back and sorted by their texts

An instant is written to the second, at UTC, in fields of fixed widths.  The reader takes far more
forms than that, and has to find its way to this one among them: the first field is four digits and
no sign, the hyphen after it announces separators, and no decimal part begins after the second.
Since the fields stand in the order of their weight, and digits of one width sort as the numbers
do, the texts sort as the instants.

## What is here

* `takeDigits?_paddedDigits` and `paddedDigits_append_lt`, reading and sorting one field;
* `Instant.read?_writeFields`, the date and the second of a day that are read back, and
  `Instant.writeFields_lt`, which of two such texts comes first;
* `Instant.fourDigitYear_iff`, the seconds that are in a year of four digits;
* `Instant.text_roundtrip_and_order`, what the text of an instant says: its second and nothing else,
  in the order of time.
-/

set_option autoImplicit false
namespace WebSso

/-! ## One field -/

theorem paddedDigits_succ_append (width n : Nat) (rest : List Char) :
    paddedDigits (width + 1) n ++ rest = paddedDigits width (n / 10) ++ digitChar n :: rest := by
  simp [paddedDigits]

/-- Digits can be taken in two portions. -/
theorem takeDigits?_add (width more value : Nat) (text : List Char) :
    takeDigits? (width + more) value text =
      (takeDigits? width value text).bind fun taken => takeDigits? more taken.1 taken.2 := by
  induction width generalizing value text with
  | zero => simp [takeDigits?]
  | succ width ih =>
    rw [Nat.succ_add]
    cases text with
    | nil => rfl
    | cons c rest =>
      simp only [takeDigits?]
      cases digitValue? c with
      | none => rfl
      | some d => exact ih _ _

/-- **A number that fits its width is read back.**  It is written from the last digit and read from
the first, so the induction takes the last digit as a portion of its own. -/
theorem takeDigits?_paddedDigits {width n : Nat} (h : n < 10 ^ width) (rest : List Char) :
    takeDigits? width 0 (paddedDigits width n ++ rest) = some (n, rest) := by
  induction width generalizing n rest with
  | zero =>
    obtain rfl : n = 0 := by omega
    rfl
  | succ width ih =>
    rw [Nat.pow_succ] at h
    rw [paddedDigits_succ_append, takeDigits?_add, ih (by omega)]
    simp [takeDigits?, digitValue?_digitChar]
    omega

theorem digitChar_lt {a b : Nat} (h : a % 10 < b % 10) : digitChar a < digitChar b := by
  have hdigits : ∀ m ∈ List.range 10, ∀ n ∈ List.range m,
      Char.ofNat (48 + n) < Char.ofNat (48 + m) := by decide
  exact hdigits (b % 10) (List.mem_range.mpr (Nat.mod_lt b (by decide))) (a % 10)
    (List.mem_range.mpr h)

/-- **Digits of one width sort as the numbers do**, whatever comes after them. -/
theorem paddedDigits_append_lt {width a b : Nat} {r s : List Char} (hb : b < 10 ^ width)
    (h : a < b) : paddedDigits width a ++ r < paddedDigits width b ++ s := by
  induction width generalizing a b r s with
  | zero => omega
  | succ width ih =>
    rw [Nat.pow_succ] at hb
    rw [paddedDigits_succ_append, paddedDigits_succ_append]
    obtain hlt | heq : a / 10 < b / 10 ∨ a / 10 = b / 10 := by omega
    · exact ih (by omega) hlt
    · rw [heq]
      exact List.append_left_lt (List.cons_lt_cons_iff.mpr (Or.inl (digitChar_lt (by omega))))

/-- A field that is the same leaves it to the rest which text comes first. -/
theorem paddedDigits_append_lt_of_eq {width a b : Nat} {c : Char} {r s : List Char} (h : a = b)
    (hrs : r < s) : paddedDigits width a ++ c :: r < paddedDigits width b ++ c :: s := by
  rw [h]
  exact List.append_left_lt (List.cons_lt_cons_iff.mpr (Or.inr ⟨rfl, hrs⟩))

namespace Instant

/-! ## All fields, read back -/

theorem skip?_cons (c : Char) (rest : List Char) : skip? c (c :: rest) = some rest := if_pos rfl

/-- A year that begins with a digit has no sign. -/
theorem readYear?_paddedDigits {n : Nat} (h : n < 10 ^ 4) (rest : List Char) :
    readYear? (paddedDigits 4 n ++ rest) = some ((n : Int), rest) := by
  have hhead : ∀ c tail, digitValue? c = none → paddedDigits 4 n ++ rest ≠ c :: tail := by
    intro c tail hc heq
    have hdigit := digitValue?_digitChar (n / 10 / 10 / 10)
    rw [(List.cons.inj heq).1, hc] at hdigit
    cases hdigit
  have htaken := takeDigits?_paddedDigits h rest
  rw [readYear?]
  · rw [htaken]
    rfl
  · exact fun tail => hhead '+' tail (by decide)
  · exact fun tail => hhead '-' tail (by decide)

theorem readMonthDay?_paddedDigits {month day : Nat} (hmonth : 1 ≤ month ∧ month ≤ 12)
    (hday : 1 ≤ day ∧ day ≤ 31) (rest : List Char) :
    readMonthDay? .extended (paddedDigits 2 month ++ '-' :: (paddedDigits 2 day ++ rest))
      = some ((month, day), rest) := by
  rw [readMonthDay?, takeDigits?_paddedDigits (by omega)]
  simp only [Option.bind_eq_bind, Option.bind_some, separator?, skip?_cons,
    takeDigits?_paddedDigits (show day < 10 ^ 2 by omega)]
  rw [if_neg (by omega), if_neg (by omega)]
  rfl

/-- A date is read back, and its hyphens make the form the extended one. -/
theorem readDate?_written {d : Calendar.Date} {second : Nat} {n : Int} (hfits : FitsFields d second)
    (h : Calendar.ofDate? d.year d.month d.day = some n) (rest : List Char) :
    readDate? (paddedDigits 4 d.year.toNat ++ '-' :: (paddedDigits 2 d.month ++
        '-' :: (paddedDigits 2 d.day ++ rest))) = some (n, .extended, rest) := by
  obtain ⟨hmonth, hday⟩ := (Calendar.ofDate?_eq_some_iff.mp h).1
  have hyear := hfits.year
  have hnat : (d.year.toNat : Int) = d.year := Int.toNat_of_nonneg hyear.1
  rw [readDate?, readYear?_paddedDigits (by omega)]
  simp only [Option.bind_eq_bind, Option.bind_some, skip?_cons, readDay?,
    readMonthDay?_paddedDigits hmonth ⟨hday.1, hfits.day⟩, hnat, h]
  rw [if_neg (by omega)]
  rfl

/-- A field of the time ends where no decimal part begins. -/
theorem readField?_paddedDigits {n : Nat} (h : n < 100) {c : Char} (hc : c ≠ '.' ∧ c ≠ ',')
    (rest : List Char) :
    readField? (paddedDigits 2 n ++ c :: rest) = some ((n, none), c :: rest) := by
  rw [readField?, takeDigits?_paddedDigits (by omega)]
  simp only [Option.bind_eq_bind, Option.bind_some]
  split
  · next heq => exact absurd (List.cons.inj heq).1 hc.1
  · next heq => exact absurd (List.cons.inj heq).1 hc.2
  · rfl

theorem readClock?_written {hour minute second : Nat} (hhour : hour < 100) (hminute : minute < 100)
    (hsecond : second < 100) {c : Char} (hc : c ≠ '.' ∧ c ≠ ',') (rest : List Char) :
    readClock? .extended (paddedDigits 2 hour ++ ':' :: (paddedDigits 2 minute ++
        ':' :: (paddedDigits 2 second ++ c :: rest)))
      = some (⟨hour, minute, second, 0⟩, c :: rest) := by
  rw [readClock?, readField?_paddedDigits hhour (by decide)]
  simp only [Option.bind_eq_bind, Option.bind_some, skip?_cons, if_pos,
    readField?_paddedDigits hminute (show ':' ≠ '.' ∧ ':' ≠ ',' by decide), readSecond?,
    readField?_paddedDigits hsecond hc, secondNanos]

/-- The clock of a second of the day is no leap second. -/
theorem ofClock?_zulu (day : Int) (second : Nat) :
    ofClock? day ⟨second / 3600, second / 60 % 60, second % 60, 0⟩ 0
      = ofNanoseconds? ((day * secondsPerDay + second) * nanosPerSecond) 0 := by
  have hleap : ¬second % 60 = 60 := by omega
  simp only [ofClock?, hleap, if_false, false_and]
  congr 1
  simp only [secondsPerDay, nanosPerSecond]
  omega

/-- **What is written is read back** as the day of its date and the second of that day. -/
theorem read?_writeFields {d : Calendar.Date} {second : Nat} {n : Int} (hfits : FitsFields d second)
    (h : Calendar.ofDate? d.year d.month d.day = some n) :
    read? (String.ofList (writeFields d second))
      = ofNanoseconds? ((n * secondsPerDay + second) * nanosPerSecond) 0 := by
  have hsecond := hfits.second
  have hcheck : (Clock.mk (second / 3600) (second / 60 % 60) (second % 60) 0).check?
      = some ⟨second / 3600, second / 60 % 60, second % 60, 0⟩ := by
    rw [Clock.check?, if_pos]
    dsimp only
    omega
  rw [read?, String.toList_ofList]
  simp only [writeFields, List.append_assoc, List.cons_append, List.nil_append]
  rw [readDate?_written hfits h]
  simp only [Option.bind_eq_bind, Option.bind_some, skip?_cons]
  rw [readClock?_written (by omega) (by omega) (by omega) (by decide)]
  simp only [Option.bind_some, hcheck, readOffset?, List.isEmpty_nil, if_true]
  exact ofClock?_zulu n second

/-! ## All fields, sorted -/

/-- **The fields stand in the order of their weight**: the earlier date comes first, and on one date
the earlier second. -/
theorem writeFields_lt {d d' : Calendar.Date} {second second' : Nat} (hd : FitsFields d second)
    (hd' : FitsFields d' second') (h : d.Before d' ∨ d = d' ∧ second < second') :
    writeFields d second < writeFields d' second' := by
  obtain ⟨⟨hyear, -⟩, -, -, -⟩ := hd
  obtain ⟨⟨hyear', hyear4'⟩, hmonth', hday', hsecond'⟩ := hd'
  simp only [writeFields, List.append_assoc, List.cons_append, List.nil_append]
  obtain (hlt | ⟨heq, hlt | ⟨hmonths, hlt⟩⟩) | ⟨rfl, hlt⟩ := h
  · exact paddedDigits_append_lt (by omega) (by omega)
  · refine paddedDigits_append_lt_of_eq (congrArg Int.toNat heq) ?_
    exact paddedDigits_append_lt (by omega) hlt
  · refine paddedDigits_append_lt_of_eq (congrArg Int.toNat heq) ?_
    refine paddedDigits_append_lt_of_eq hmonths ?_
    exact paddedDigits_append_lt (by omega) hlt
  · refine paddedDigits_append_lt_of_eq rfl (paddedDigits_append_lt_of_eq rfl
      (paddedDigits_append_lt_of_eq rfl ?_))
    obtain hhour | hhour : second / 3600 < second' / 3600 ∨ second / 3600 = second' / 3600 := by
      omega
    · exact paddedDigits_append_lt (by omega) hhour
    refine paddedDigits_append_lt_of_eq hhour ?_
    obtain hminute | hminute : second / 60 % 60 < second' / 60 % 60 ∨
        second / 60 % 60 = second' / 60 % 60 := by omega
    · exact paddedDigits_append_lt (by omega) hminute
    refine paddedDigits_append_lt_of_eq hminute ?_
    exact paddedDigits_append_lt (by omega) (by omega)

/-! ## Years of four digits -/

/-- The first second of the year 0. -/
def yearZero : Int := -62167219200

/-- **The years of four digits** are the seconds from the start of the year 0 to the end of those
that can be shown. -/
theorem fourDigitYear_iff {t : Instant} :
    t.FourDigitYear ↔ yearZero ≤ t.unixSeconds ∧ t.unixSeconds < endShown := by
  have hzero : Calendar.dayNumber 0 1 1 = -719528 := by decide
  have hend : Calendar.dayNumber 10000 1 1 = 2932897 := by decide
  have hlast : t.utcDate.year ≤ 9999 ↔ ¬10000 ≤ t.utcDate.year := by omega
  rw [FourDigitYear, hlast, utcDate, Calendar.le_year_date_iff, Calendar.le_year_date_iff, hzero,
    hend]
  simp only [secondsPerDay, yearZero, endShown]
  omega

theorem nanoseconds_wholeSeconds (t : Instant) :
    t.wholeSeconds.nanoseconds = t.unixSeconds * nanosPerSecond := by
  simp only [wholeSeconds, subsecond, unixSeconds, nanosPerSecond]
  omega

@[simp]
theorem unixSeconds_wholeSeconds (t : Instant) : t.wholeSeconds.unixSeconds = t.unixSeconds := by
  rw [unixSeconds, nanoseconds_wholeSeconds]
  exact Int.mul_ediv_cancel _ (by decide)

theorem wholeSeconds_lt_iff {t u : Instant} :
    t.wholeSeconds < u.wholeSeconds ↔ t.unixSeconds < u.unixSeconds := by
  rw [lt_iff, nanoseconds_wholeSeconds, nanoseconds_wholeSeconds]
  simp only [nanosPerSecond]
  omega

/-- An instant of these years exists at UTC, whatever its offset. -/
theorem FourDigitYear.exists_toUtc? {t : Instant} (h : t.FourDigitYear) :
    ∃ u, t.toUtc? = some u := by
  refine Option.isSome_iff_exists.mp (isSome_ofNanoseconds?_iff.mpr ?_)
  rw [fourDigitYear_iff] at h
  simp only [yearZero, endShown, unixSeconds, nanosPerSecond] at h
  simp only [Shown, firstShown, endShown, nanosPerSecond]
  omega

/-! ## The text of an instant -/

theorem write_of_fourDigitYear {t : Instant} (h : t.FourDigitYear) :
    t.write =
      .ok (String.ofList (writeFields t.utcDate (t.unixSeconds % secondsPerDay).toNat)) := by
  obtain ⟨u, hu⟩ := h.exists_toUtc?
  rw [write_of_toUtc? hu, if_pos h]

/-- **The text of an instant is read as the start of its second, at UTC.** -/
theorem read?_of_write {t : Instant} {text : String} (h : t.write = .ok text) :
    read? text = t.wholeSeconds.toUtc? := by
  obtain ⟨hfits, htext⟩ := write_eq_ok h
  have hsecond : t.unixSeconds / secondsPerDay * secondsPerDay
      + ((t.unixSeconds % secondsPerDay).toNat : Int) = t.unixSeconds := by
    simp only [secondsPerDay]
    omega
  rw [← String.ofList_toList (s := text), htext, read?_writeFields hfits (Calendar.ofDate?_date _),
    hsecond, toUtc?, nanoseconds_wholeSeconds]

/-- **An earlier second has the earlier text.** -/
theorem write_lt_of_unixSeconds_lt {t t' : Instant} {text text' : String} (h : t.write = .ok text)
    (h' : t'.write = .ok text') (hlt : t.unixSeconds < t'.unixSeconds) : text < text' := by
  obtain ⟨hfits, htext⟩ := write_eq_ok h
  obtain ⟨hfits', htext'⟩ := write_eq_ok h'
  rw [String.lt_iff, htext, htext']
  refine writeFields_lt hfits hfits' ?_
  obtain hday | hday : t.unixSeconds / secondsPerDay < t'.unixSeconds / secondsPerDay ∨
      t.unixSeconds / secondsPerDay = t'.unixSeconds / secondsPerDay := by
    simp only [secondsPerDay]
    omega
  · exact Or.inl (Calendar.date_before hday)
  · refine Or.inr ⟨congrArg Calendar.date hday, ?_⟩
    simp only [secondsPerDay] at hday ⊢
    omega

theorem write_eq_iff {t t' : Instant} {text text' : String} (h : t.write = .ok text)
    (h' : t'.write = .ok text') : text = text' ↔ t.unixSeconds = t'.unixSeconds := by
  constructor
  · rintro rfl
    exact unixSeconds_eq_of_write_eq h h'
  · intro heq
    obtain ⟨-, htext⟩ := write_eq_ok h
    obtain ⟨-, htext'⟩ := write_eq_ok h'
    rw [← String.toList_inj, htext, htext', utcDate, utcDate, heq]

theorem write_lt_iff {t t' : Instant} {text text' : String} (h : t.write = .ok text)
    (h' : t'.write = .ok text') : text < text' ↔ t.unixSeconds < t'.unixSeconds := by
  refine ⟨fun hlt => ?_, write_lt_of_unixSeconds_lt h h'⟩
  refine Int.not_le.mp fun hle => ?_
  obtain hafter | heq := Int.lt_or_eq_of_le hle
  · exact String.lt_asymm hlt (write_lt_of_unixSeconds_lt h' h hafter)
  · rw [(write_eq_iff h h').mpr heq.symm] at hlt
    exact String.lt_irrefl _ hlt

/-- **The text of an instant says its second, and texts sort as time does.**  An instant of a year
of four digits is written, whatever its offset and what is below its second; its text is read as the
start of its second, at UTC; and of two texts the first is that of the earlier second, and they are
equal if it is one second.  Any other instant that exists at UTC is refused. -/
theorem text_roundtrip_and_order :
    (∀ t : Instant, t.FourDigitYear → ∃ text u, t.write = .ok text ∧
        t.wholeSeconds.toUtc? = some u ∧ readAssertionInstant text = .ok u) ∧
      (∀ t t' : Instant, ∀ text text' : String, t.write = .ok text → t'.write = .ok text' →
        (text < text' ↔ t.wholeSeconds < t'.wholeSeconds) ∧
          (text = text' ↔ t.unixSeconds = t'.unixSeconds)) ∧
      ∀ t : Instant, ¬t.FourDigitYear → t.toUtc?.isSome →
        ∃ detail, t.write = Stop.refuse (.serialization detail) := by
  refine ⟨fun t h => ?_, fun t t' text text' h h' => ?_, fun t h hutc => ?_⟩
  · have hwrite := write_of_fourDigitYear h
    have hwhole : t.wholeSeconds.FourDigitYear := by
      rw [fourDigitYear_iff] at h ⊢
      rwa [unixSeconds_wholeSeconds]
    obtain ⟨u, hu⟩ := hwhole.exists_toUtc?
    refine ⟨_, u, hwrite, hu, ?_⟩
    rw [readAssertionInstant, read?_of_write hwrite, hu]
  · exact ⟨(write_lt_iff h h').trans wholeSeconds_lt_iff.symm, write_eq_iff h h'⟩
  · obtain ⟨u, hu⟩ := Option.isSome_iff_exists.mp hutc
    exact ⟨_, (write_of_toUtc? hu).trans (if_neg h)⟩

/-- The last nanosecond of 1969 by the clock of UTC, shown an hour ahead. -/
def lastOf1969 : Instant := ⟨-1, 3600, by decide⟩

/-- The last second before the year 0 by the clock of UTC, shown an hour ahead. -/
def lastBeforeYearZero : Instant := ⟨(yearZero - 1) * nanosPerSecond, 3600, by decide⟩

/-- An offset can move the clock into the next year, but what is written is the year at UTC. -/
theorem text_roundtrip_and_order_at_new_year :
    (lastOf1969.write = .ok "1969-12-31T23:59:59Z" ∧
        readAssertionInstant "1969-12-31T23:59:59Z" = .ok ⟨-nanosPerSecond, 0, by decide⟩) ∧
      (epoch.write = .ok "1970-01-01T00:00:00Z" ∧
        ("1969-12-31T23:59:59Z" < "1970-01-01T00:00:00Z" ↔
          lastOf1969.wholeSeconds < epoch.wholeSeconds)) ∧
      ∃ detail, lastBeforeYearZero.write = Stop.refuse (.serialization detail) := by
  obtain ⟨hread, horder, hrefused⟩ := text_roundtrip_and_order
  have hlast : lastOf1969.write = .ok "1969-12-31T23:59:59Z" := by decide +kernel
  have hepoch : epoch.write = .ok "1970-01-01T00:00:00Z" := by decide +kernel
  refine ⟨⟨hlast, ?_⟩, ⟨hepoch, (horder _ _ _ _ hlast hepoch).1⟩,
    hrefused lastBeforeYearZero (by decide) (by decide)⟩
  obtain ⟨text, u, hwrite, hutc, htext⟩ := hread lastOf1969 (by decide)
  rw [hlast] at hwrite
  cases hwrite
  exact htext.trans (congrArg Except.ok (Option.some.inj (hutc.symm.trans (by decide))))

end Instant
end WebSso
