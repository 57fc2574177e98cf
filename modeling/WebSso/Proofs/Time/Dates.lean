import WebSso.Proofs.Time.Calendar

/-!
# The dates there are

A date exists if its month is one of twelve and the month has the day, which for February depends on
the year.  The number of a day is computed by a formula that counts from March; here it is compared
with what a calendar is, months that follow each other by their lengths and years that follow each
other by their months.  From that comes the order of dates, and from the order that days and dates
that exist correspond.

## What is here

* `Calendar.Date.Exists`, and `Calendar.exists_date`: the date of a day exists;
* `Calendar.dayNumber_succ_month` and `Calendar.dayNumber_succ_year`, the months of a year and the
  years after one another;
* `Calendar.Date.Before`, the order of dates, and `Calendar.date_before`: later days have later
  dates;
* `Calendar.ofDate?_date`, by which the date of a day names that day;
* `Calendar.le_year_date_iff`, the days of the years from some year on.
-/

set_option autoImplicit false
namespace WebSso
namespace Calendar

/-! ## Dates that exist -/

/-- A date that the calendar has. -/
structure Date.Exists (d : Date) : Prop where
  /-- The month is one of twelve. -/
  month : 1 ≤ d.month ∧ d.month ≤ 12
  /-- The month has the day. -/
  day : 1 ≤ d.day ∧ d.day ≤ monthLength d.year d.month

theorem ofDate?_eq_some_iff {year : Int} {month day : Nat} {n : Int} :
    ofDate? year month day = some n ↔
      (Date.mk year month day).Exists ∧ dayNumber year month day = n := by
  rw [ofDate?]
  constructor
  · intro h
    split at h
    · next hexists =>
      simp only [Bool.and_eq_true, decide_eq_true_eq] at hexists
      obtain ⟨⟨⟨hone, htwelve⟩, hfirst⟩, hlast⟩ := hexists
      exact ⟨⟨⟨hone, htwelve⟩, hfirst, hlast⟩, Option.some.inj h⟩
    · cases h
  · rintro ⟨⟨⟨hone, htwelve⟩, hfirst, hlast⟩, rfl⟩
    rw [if_pos]
    simp only [Bool.and_eq_true, decide_eq_true_eq]
    exact ⟨⟨⟨hone, htwelve⟩, hfirst⟩, hlast⟩

theorem isLeap_add_cycles (year cycle : Int) : isLeap (year + cycle * 400) = isLeap year := by
  have h4 : (year + cycle * 400) % 4 = year % 4 := by omega
  have h100 : (year + cycle * 400) % 100 = year % 100 := by omega
  have h400 : (year + cycle * 400) % 400 = year % 400 := by omega
  rw [isLeap, isLeap, h4, h100, h400]

/-- The months from March to December have 153 days in every five. -/
theorem monthLength_of_late (year : Int) {month : Nat} (h : 3 ≤ month ∧ month ≤ 12) :
    (monthLength year month : Int)
      = (153 * ((month : Int) - 2) + 2) / 5 - (153 * ((month : Int) - 3) + 2) / 5 := by
  have hmonth : month = 3 ∨ month = 4 ∨ month = 5 ∨ month = 6 ∨ month = 7 ∨ month = 8 ∨
      month = 9 ∨ month = 10 ∨ month = 11 ∨ month = 12 := by omega
  rcases hmonth with rfl | rfl | rfl | rfl | rfl | rfl | rfl | rfl | rfl | rfl <;> rfl

/-- **Every day has a date that exists.** -/
theorem exists_date (n : Int) : (date n).Exists := by
  obtain ⟨cycle, year, day, -, hday, hlast, -, hdate⟩ := exists_parts n
  obtain ⟨month, dayOfMonth, hmonth, hdom, hval, ⟨hlate, hmarch, h⟩ | ⟨hearly, hmarch, h⟩⟩ :=
    ofParts_cases cycle year hday
  · rw [hdate, h]
    refine ⟨hmonth, hdom.1, ?_⟩
    have hlength := monthLength_of_late (year + cycle * 400) ⟨hlate, hmonth.2⟩
    -- the length of the month, by the month as it is counted from March
    rw [hmarch, Int.add_sub_cancel] at hlength
    dsimp only
    omega
  · rw [hdate, h]
    refine ⟨hmonth, hdom.1, ?_⟩
    dsimp only
    have hleap : isLeap (year + cycle * 400 + 1) = isLeap (year + 1) := by
      rw [← isLeap_add_cycles (year + 1) cycle]
      congr 1
      omega
    obtain rfl | rfl : month = 1 ∨ month = 2 := by omega
    · exact hdom.2
    -- a 29 February is the 366th day of its year
    · simp only [monthLength, hleap]
      split
      · omega
      · next hcommon =>
        have hne : day ≠ 365 := fun h => hcommon (hlast h)
        omega

/-- **The date of a day names that day.** -/
theorem ofDate?_date (n : Int) : ofDate? (date n).year (date n).month (date n).day = some n :=
  ofDate?_eq_some_iff.mpr ⟨exists_date n, dayNumber_date n⟩

/-! ## Months and years after one another -/

theorem dayNumber_day (year : Int) (month day : Nat) :
    dayNumber year month day = dayNumber year month 1 + ((day : Int) - 1) := by
  simp only [dayNumber]
  omega

/-- The first of March, from which a year is counted. -/
def firstOfMarch (year : Int) : Int := dayNumber year 3 1

theorem dayNumber_of_late (year : Int) {month : Nat} (day : Nat) (h : 2 < month) :
    dayNumber year month day
      = firstOfMarch year + (153 * ((month : Int) - 3) + 2) / 5 + ((day : Int) - 1) := by
  simp only [firstOfMarch, dayNumber, if_neg (Nat.not_le.mpr h), if_neg (show ¬3 ≤ 2 by decide)]
  omega

theorem dayNumber_of_early (year : Int) {month : Nat} (day : Nat) (h : month ≤ 2) :
    dayNumber year month day
      = firstOfMarch (year - 1) + (153 * ((month : Int) + 9) + 2) / 5 + ((day : Int) - 1) := by
  simp only [firstOfMarch, dayNumber, if_pos h, if_neg (show ¬3 ≤ 2 by decide)]
  omega

/-- From March to March there are the days of the year that February belongs to. -/
theorem firstOfMarch_eq (year : Int) :
    firstOfMarch year = firstOfMarch (year - 1) + yearLength year := by
  simp only [firstOfMarch, dayNumber, if_neg (show ¬3 ≤ 2 by decide), yearLength, cycleDays]
  split
  · next hleap =>
    simp only [isLeap, Bool.and_eq_true, Bool.or_eq_true, decide_eq_true_eq, ne_eq] at hleap
    omega
  · next hleap =>
    simp only [isLeap, Bool.and_eq_true, Bool.or_eq_true, decide_eq_true_eq, ne_eq] at hleap
    omega

/-- The first of a month comes as many days after the first of the month before as that has. -/
theorem dayNumber_succ_month (year : Int) {month : Nat} (h : 1 ≤ month ∧ month < 12) :
    dayNumber year (month + 1) 1 = dayNumber year month 1 + monthLength year month := by
  obtain rfl | rfl | hlate : month = 1 ∨ month = 2 ∨ 2 < month := by omega
  · rw [dayNumber_of_early year 1 (by decide), dayNumber_of_early year 1 (by decide)]
    simp only [monthLength]
    omega
  · rw [dayNumber_of_late year 1 (by decide), dayNumber_of_early year 1 (by decide),
      firstOfMarch_eq, yearLength, monthLength]
    split
    · omega
    · omega
  · have hlength := monthLength_of_late year ⟨hlate, Nat.le_of_lt h.2⟩
    rw [dayNumber_of_late year 1 (Nat.lt_succ_of_lt hlate), dayNumber_of_late year 1 hlate, hlength]
    omega

/-- The first of January comes after the 31 days of December. -/
theorem dayNumber_succ_year (year : Int) :
    dayNumber (year + 1) 1 1 = dayNumber year 12 1 + monthLength year 12 := by
  rw [dayNumber_of_early (year + 1) 1 (by decide), dayNumber_of_late year 1 (by decide),
    Int.add_sub_cancel]
  simp only [monthLength]
  omega

/-- A month is over when a later month of the year begins. -/
theorem dayNumber_month_end_le (year : Int) {month month' : Nat} (h : 1 ≤ month)
    (hlt : month < month') (h' : month' ≤ 12) :
    dayNumber year month 1 + monthLength year month ≤ dayNumber year month' 1 := by
  induction month' with
  | zero => cases hlt
  | succ n ih =>
    obtain rfl | hlt' := Nat.eq_or_lt_of_le (Nat.le_of_lt_succ hlt)
    · exact Int.le_of_eq (dayNumber_succ_month year ⟨h, h'⟩).symm
    · rw [dayNumber_succ_month year ⟨by omega, h'⟩]
      have hn := ih hlt' (by omega)
      omega

/-- Of two years the first begins first. -/
theorem dayNumber_year_mono {year year' : Int} (h : year ≤ year') :
    dayNumber year 1 1 ≤ dayNumber year' 1 1 := by
  rw [dayNumber_of_early year 1 (by decide), dayNumber_of_early year' 1 (by decide)]
  simp only [firstOfMarch, dayNumber, if_neg (show ¬3 ≤ 2 by decide), cycleDays]
  omega

/-! ## The order of dates -/

namespace Date

/-- One date is before another in the calendar. -/
def Before (a b : Date) : Prop :=
  a.year < b.year ∨ a.year = b.year ∧ (a.month < b.month ∨ a.month = b.month ∧ a.day < b.day)

theorem before_trichotomy (a b : Date) : a.Before b ∨ a = b ∨ b.Before a := by
  obtain ⟨year, month, day⟩ := a
  obtain ⟨year', month', day'⟩ := b
  simp only [Before, mk.injEq]
  omega

variable {a b : Date}

/-- A day of a month is not before the first of it, and before the first of the next. -/
theorem Exists.month_bounds (h : a.Exists) :
    dayNumber a.year a.month 1 ≤ dayNumber a.year a.month a.day ∧
      dayNumber a.year a.month a.day
        < dayNumber a.year a.month 1 + monthLength a.year a.month := by
  have hday := h.day
  rw [dayNumber_day a.year a.month a.day]
  omega

/-- A day of a year is not before 1 January, and before 1 January of the next year. -/
theorem Exists.year_bounds (h : a.Exists) :
    dayNumber a.year 1 1 ≤ dayNumber a.year a.month a.day ∧
      dayNumber a.year a.month a.day < dayNumber (a.year + 1) 1 1 := by
  obtain ⟨hfirst, hlast⟩ := h.month_bounds
  obtain ⟨hone, htwelve⟩ := h.month
  have hstart : dayNumber a.year 1 1 ≤ dayNumber a.year a.month 1 := by
    obtain heq | hlt := Nat.eq_or_lt_of_le hone
    · exact Int.le_of_eq (by rw [← heq])
    · have hend := dayNumber_month_end_le a.year (Nat.le_refl 1) hlt htwelve
      omega
  have hend : dayNumber a.year a.month 1 + monthLength a.year a.month
      ≤ dayNumber (a.year + 1) 1 1 := by
    rw [dayNumber_succ_year]
    obtain heq | hlt := Nat.eq_or_lt_of_le htwelve
    · exact Int.le_of_eq (by rw [heq])
    · have hend := dayNumber_month_end_le a.year hone hlt (Nat.le_refl 12)
      omega
  exact ⟨Int.le_trans hstart hfirst, Int.lt_of_lt_of_le hlast hend⟩

/-- **A date that is before another names an earlier day.** -/
theorem Before.dayNumber_lt (h : a.Before b) (ha : a.Exists) (hb : b.Exists) :
    dayNumber a.year a.month a.day < dayNumber b.year b.month b.day := by
  obtain hyear | ⟨hyear, hmonth | ⟨hmonth, hday⟩⟩ := h
  · have hnext := dayNumber_year_mono (Int.add_one_le_of_lt hyear)
    exact Int.lt_of_lt_of_le ha.year_bounds.2 (Int.le_trans hnext hb.year_bounds.1)
  · have hnext := dayNumber_month_end_le a.year ha.month.1 hmonth hb.month.2
    rw [hyear] at hnext
    have hlast := ha.month_bounds.2
    rw [hyear] at hlast ⊢
    exact Int.lt_of_lt_of_le hlast (Int.le_trans hnext hb.month_bounds.1)
  · rw [dayNumber_day, dayNumber_day b.year, hyear, hmonth]
    omega

end Date

/-- **Later days have later dates.** -/
theorem date_before {m n : Int} (h : m < n) : (date m).Before (date n) := by
  obtain hbefore | heq | hafter := Date.before_trichotomy (date m) (date n)
  · exact hbefore
  · have hsame := dayNumber_date m
    rw [heq, dayNumber_date] at hsame
    omega
  · have hlt := hafter.dayNumber_lt (exists_date n) (exists_date m)
    rw [dayNumber_date, dayNumber_date] at hlt
    omega

/-- The years from some year on begin with its first of January. -/
theorem le_year_date_iff {year n : Int} : year ≤ (date n).year ↔ dayNumber year 1 1 ≤ n := by
  have hbounds := (exists_date n).year_bounds
  rw [dayNumber_date] at hbounds
  constructor
  · intro h
    exact Int.le_trans (dayNumber_year_mono h) hbounds.1
  · intro h
    refine Int.not_lt.mp fun hlt => ?_
    have hnext := dayNumber_year_mono (Int.add_one_le_of_lt hlt)
    omega

end Calendar
end WebSso
