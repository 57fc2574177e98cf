import WebSso.Proofs.Time.Calendar
import WebSso.Proofs.Time.Order
import WebSso.Time.Written

/-!
# What an instant is written as determines its second

Every field of a written instant has a fixed width that holds all its values, so the fields can be
cut out again; and a date names its day.

## What is here

* `paddedDigits_append_inj`, by which a number of a fixed width is determined by its digits;
* `Instant.FitsFields`, a date and a second of the day that fit the fields, and
  `Instant.writeFields_injective`;
* `Instant.FourDigitYear`, the years that can be written, and `Instant.write_of_toUtc?`, what an
  instant that exists at UTC is written as;
* `Instant.write_eq_ok`, what is written if anything is, and `Instant.unixSeconds_eq_of_write_eq`,
  with `Instant.text_eq_iff_unixSeconds_eq`, by which nothing else than the second matters.
-/

set_option autoImplicit false
namespace WebSso

/-! ## Digits -/

theorem digitValue?_digitChar (n : Nat) : digitValue? (digitChar n) = some (n % 10) := by
  have hdigits : ∀ d ∈ List.range 10, digitValue? (Char.ofNat (48 + d)) = some d := by decide
  exact hdigits (n % 10) (List.mem_range.mpr (Nat.mod_lt n (by decide)))

theorem length_paddedDigits (width n : Nat) : (paddedDigits width n).length = width := by
  induction width generalizing n with
  | zero => rfl
  | succ width ih => rw [paddedDigits, List.length_append, ih, List.length_singleton]

theorem paddedDigits_injective {width a b : Nat} (ha : a < 10 ^ width) (hb : b < 10 ^ width)
    (h : paddedDigits width a = paddedDigits width b) : a = b := by
  induction width generalizing a b with
  | zero => omega
  | succ width ih =>
    rw [Nat.pow_succ] at ha hb
    obtain ⟨hfront, hlast⟩ := List.append_inj h (by simp only [length_paddedDigits])
    have hdigit := congrArg digitValue? (List.cons.inj hlast).1
    rw [digitValue?_digitChar, digitValue?_digitChar, Option.some.injEq] at hdigit
    have htens := ih (by omega) (by omega) hfront
    omega

/-- A number that fits its width is determined by its digits, and so is what comes after them. -/
theorem paddedDigits_append_inj {width a b : Nat} {r s : List Char} (ha : a < 10 ^ width)
    (hb : b < 10 ^ width) (h : paddedDigits width a ++ r = paddedDigits width b ++ s) :
    a = b ∧ r = s := by
  obtain ⟨hdigits, hrs⟩ := List.append_inj h (by simp only [length_paddedDigits])
  exact ⟨paddedDigits_injective ha hb hdigits, hrs⟩

namespace Instant

/-! ## Fields -/

/-- A date and a second of the day whose fields are as wide as they are written. -/
structure FitsFields (d : Calendar.Date) (second : Nat) : Prop where
  /-- The year has four digits. -/
  year : 0 ≤ d.year ∧ d.year ≤ 9999
  /-- The month has two. -/
  month : d.month ≤ 12
  /-- The day has two. -/
  day : d.day ≤ 31
  /-- The second is one of a day, so that its hour has two. -/
  second : second < 86400

theorem writeFields_injective {d d' : Calendar.Date} {second second' : Nat}
    (hd : FitsFields d second) (hd' : FitsFields d' second')
    (h : writeFields d second = writeFields d' second') : d = d' ∧ second = second' := by
  obtain ⟨year, month, day⟩ := d
  obtain ⟨year', month', day'⟩ := d'
  obtain ⟨⟨hyear, hyear4⟩, hmonth, hday, hsecond⟩ := hd
  obtain ⟨⟨hyear', hyear4'⟩, hmonth', hday', hsecond'⟩ := hd'
  simp only [writeFields, List.append_assoc, List.cons_append, List.nil_append] at h
  dsimp only at hyear hyear4 hmonth hday hyear' hyear4' hmonth' hday'
  obtain ⟨hyears, h⟩ := paddedDigits_append_inj (by omega) (by omega) h
  obtain ⟨hmonths, h⟩ := paddedDigits_append_inj (by omega) (by omega) (List.cons.inj h).2
  obtain ⟨hdays, h⟩ := paddedDigits_append_inj (by omega) (by omega) (List.cons.inj h).2
  obtain ⟨hhours, h⟩ := paddedDigits_append_inj (by omega) (by omega) (List.cons.inj h).2
  obtain ⟨hminutes, h⟩ := paddedDigits_append_inj (by omega) (by omega) (List.cons.inj h).2
  obtain ⟨hseconds, -⟩ := paddedDigits_append_inj (by omega) (by omega) (List.cons.inj h).2
  have hyearEq : year = year' := by omega
  exact ⟨by rw [hyearEq, hmonths, hdays], by omega⟩

/-! ## Instants -/

/-- A year at UTC that is written with four digits. -/
def FourDigitYear (t : Instant) : Prop := 0 ≤ t.utcDate.year ∧ t.utcDate.year ≤ 9999

instance (t : Instant) : Decidable t.FourDigitYear := inferInstanceAs (Decidable (_ ∧ _))

/-- What an instant that exists at UTC is written as: it is the same second there. -/
theorem write_of_toUtc? {t u : Instant} (h : t.toUtc? = some u) :
    t.write =
      if t.FourDigitYear then
        .ok (String.ofList (writeFields t.utcDate (t.unixSeconds % secondsPerDay).toNat))
      else Stop.refuse unwritableYear := by
  have hseconds : u.unixSeconds = t.unixSeconds := by
    rw [unixSeconds, unixSeconds, (ofNanoseconds?_eq_some_iff.mp h).1]
  have hdate : u.utcDate = t.utcDate := by rw [utcDate, utcDate, hseconds]
  rw [write, h, Stop.inRange]
  dsimp only [bind, Except.bind]
  rw [hseconds, hdate]
  rfl

theorem fitsFields_of_fourDigitYear {t : Instant} (h : t.FourDigitYear) :
    FitsFields t.utcDate (t.unixSeconds % secondsPerDay).toNat := by
  have hfits := Calendar.date_le (t.unixSeconds / secondsPerDay)
  refine ⟨h, hfits.1, hfits.2, ?_⟩
  simp only [secondsPerDay]
  omega

/-- **What is written**, if anything is: the fields of the date and the second at UTC, which fit. -/
theorem write_eq_ok {t : Instant} {text : String} (h : t.write = .ok text) :
    FitsFields t.utcDate (t.unixSeconds % secondsPerDay).toNat ∧
      text.toList = writeFields t.utcDate (t.unixSeconds % secondsPerDay).toNat := by
  obtain ⟨u, hin, -⟩ := Stop.exists_of_bind_eq_ok h
  rw [write_of_toUtc? (Stop.inRange_eq_ok_iff.mp hin)] at h
  split at h
  · next hyear =>
    exact ⟨fitsFields_of_fourDigitYear hyear, by rw [← Except.ok.inj h, String.toList_ofList]⟩
  · cases h

/-- **Instants written alike are in the same second.** -/
theorem unixSeconds_eq_of_write_eq {t u : Instant} {text : String} (ht : t.write = .ok text)
    (hu : u.write = .ok text) : t.unixSeconds = u.unixSeconds := by
  obtain ⟨hfits, htext⟩ := write_eq_ok ht
  obtain ⟨hfits', htext'⟩ := write_eq_ok hu
  obtain ⟨hdate, hsecond⟩ := writeFields_injective hfits hfits' (htext.symm.trans htext')
  have hday : t.unixSeconds / secondsPerDay = u.unixSeconds / secondsPerDay := by
    rw [← Calendar.dayNumber_date (t.unixSeconds / secondsPerDay), ← utcDate, hdate, utcDate,
      Calendar.dayNumber_date]
  simp only [secondsPerDay] at hday hsecond
  omega

/-- Nothing else of an instant than its second is written. -/
theorem text_eq_iff_unixSeconds_eq {t u : Instant} {text text' : String} (ht : t.write = .ok text)
    (hu : u.write = .ok text') : text = text' ↔ t.unixSeconds = u.unixSeconds := by
  constructor
  · rintro rfl
    exact unixSeconds_eq_of_write_eq ht hu
  · intro hseconds
    have hdate : t.utcDate = u.utcDate := by rw [utcDate, utcDate, hseconds]
    apply String.toList_inj.mp
    rw [(write_eq_ok ht).2, (write_eq_ok hu).2, hdate, hseconds]

end Instant
end WebSso
