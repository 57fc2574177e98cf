import WebSso.Time.Calendar

/-!
# The date of a day names it

A day is taken apart into a cycle of 400 years, a year of the cycle and a day of that year, all
counted from March; the month follows from the day of the year.  Each part stays in its range, and
putting them together again gives the day.

## What is here

* `Calendar.ofParts`, the date of these parts, and `Calendar.exists_parts`, which finds them for a
  day;
* `Calendar.isLeap_of_last_day`: only a year that ends in a leap February has a 366th day;
* `Calendar.dayNumber_date`, by which a date names the day that it is the date of;
* `Calendar.date_le`: the month and the day of a date have two digits.
-/

set_option autoImplicit false
namespace WebSso
namespace Calendar

/-- The year of a 400-year cycle, counted from March, that a day of the cycle belongs to. -/
def yearOfCycle (dayOfCycle : Int) : Int :=
  (dayOfCycle - dayOfCycle / 1460 + dayOfCycle / 36524 - dayOfCycle / 146096) / 365

/-- The days of a cycle before one of its years. -/
def daysBefore (year : Int) : Int := 365 * year + year / 4 - year / 100

/-- The date of a cycle, a year of the cycle and a day of that year. -/
def ofParts (cycle year day : Int) : Date :=
  let marchMonth := (5 * day + 2) / 153
  let month := if marchMonth < 10 then marchMonth + 3 else marchMonth - 9
  { year := if month ≤ 2 then year + cycle * 400 + 1 else year + cycle * 400
    month := month.toNat
    day := (day - (153 * marchMonth + 2) / 5 + 1).toNat }

theorem yearOfCycle_bounds {d : Int} (h : 0 ≤ d ∧ d < cycleDays) :
    0 ≤ yearOfCycle d ∧ yearOfCycle d < 400 := by
  simp only [yearOfCycle, cycleDays] at h ⊢
  omega

/-- A day of a cycle belongs to the year that was found for it. -/
theorem daysBefore_yearOfCycle {d : Int} (h : 0 ≤ d ∧ d < cycleDays) :
    0 ≤ d - daysBefore (yearOfCycle d) ∧ d - daysBefore (yearOfCycle d) < 366 := by
  have hyear := yearOfCycle_bounds h
  obtain ⟨year, hdef⟩ : ∃ year, year = yearOfCycle d := ⟨_, rfl⟩
  rw [← hdef] at hyear ⊢
  simp only [daysBefore, yearOfCycle, cycleDays] at h hdef ⊢
  -- only a century at a time is the year linear in the day
  have hcentury : year / 100 = 0 ∨ year / 100 = 1 ∨ year / 100 = 2 ∨ year / 100 = 3 := by omega
  rcases hcentury with hc | hc | hc | hc <;> omega

/-- **A year of a cycle has a 366th day only if it ends in a leap February.**  The years of a cycle
are taken apart into centuries, leap periods of four years and what is left. -/
theorem isLeap_of_last_day {d : Int} (h : 0 ≤ d ∧ d < cycleDays)
    (hlast : d - daysBefore (yearOfCycle d) = 365) : isLeap (yearOfCycle d + 1) = true := by
  have hyear := yearOfCycle_bounds h
  obtain ⟨year, hdef⟩ : ∃ year, year = yearOfCycle d := ⟨_, rfl⟩
  rw [← hdef] at hyear hlast ⊢
  simp only [daysBefore, yearOfCycle, cycleDays] at h hdef hlast
  obtain ⟨century, quad, rest, hquad, hrest, rfl⟩ :
      ∃ century quad rest : Int, (0 ≤ quad ∧ quad < 25) ∧ (0 ≤ rest ∧ rest < 4) ∧
        year = 100 * century + 4 * quad + rest :=
    ⟨year / 100, year % 100 / 4, year % 4, by omega, by omega, by omega⟩
  have h4 : (100 * century + 4 * quad + rest) / 4 = 25 * century + quad := by omega
  have h100 : (100 * century + 4 * quad + rest) / 100 = century := by omega
  rw [h4, h100] at hlast
  obtain rfl : d = 36524 * century + 1461 * quad + 365 * rest + 365 := by omega
  -- otherwise the day would have been found to be of the next year
  have hrest : ¬rest < 3 := by
    intro hlt
    have h1460 : (36524 * century + 1461 * quad + 365 * rest + 365) / 1460
        = 25 * century + quad := by omega
    have h36524 : (36524 * century + 1461 * quad + 365 * rest + 365) / 36524 = century := by omega
    have h146096 : (36524 * century + 1461 * quad + 365 * rest + 365) / 146096 = 0 := by omega
    rw [h1460, h36524, h146096] at hdef
    omega
  obtain rfl : rest = 3 := by omega
  have hcentury : ¬(quad = 24 ∧ century < 3) := by
    rintro ⟨rfl, hlt⟩
    have h1460 : (36524 * century + 1461 * 24 + 365 * 3 + 365) / 1460
        = 25 * century + 25 := by omega
    have h36524 : (36524 * century + 1461 * 24 + 365 * 3 + 365) / 36524 = century + 1 := by omega
    have h146096 : (36524 * century + 1461 * 24 + 365 * 3 + 365) / 146096 = 0 := by omega
    rw [h1460, h36524, h146096] at hdef
    omega
  have hleap : (100 * century + 4 * quad + 3 + 1) % 4 = 0 ∧
      ((100 * century + 4 * quad + 3 + 1) % 100 ≠ 0 ∨
        (100 * century + 4 * quad + 3 + 1) % 400 = 0) := by
    clear hdef hlast h
    omega
  simpa [isLeap] using hleap

/-- **A day has a date by its parts**, each of them in its range. -/
theorem exists_parts (n : Int) :
    ∃ cycle year day : Int, (0 ≤ year ∧ year < 400) ∧ (0 ≤ day ∧ day < 366) ∧
      (day = 365 → isLeap (year + 1) = true) ∧
      n + epochShift = cycle * cycleDays + (daysBefore year + day) ∧
      date n = ofParts cycle year day := by
  have hd : 0 ≤ (n + epochShift) % cycleDays ∧ (n + epochShift) % cycleDays < cycleDays :=
    ⟨Int.emod_nonneg _ (by decide), Int.emod_lt_of_pos _ (by decide)⟩
  refine ⟨(n + epochShift) / cycleDays, yearOfCycle ((n + epochShift) % cycleDays),
    (n + epochShift) % cycleDays - daysBefore (yearOfCycle ((n + epochShift) % cycleDays)),
    yearOfCycle_bounds hd, daysBefore_yearOfCycle hd, isLeap_of_last_day hd, ?_, rfl⟩
  have hsplit := Int.ediv_mul_add_emod (n + epochShift) cycleDays
  omega

/-- The months from March to December are of the year that began in March, and January and February
of the year after it. -/
theorem ofParts_cases (cycle year : Int) {day : Int} (hday : 0 ≤ day ∧ day < 366) :
    ∃ month dayOfMonth : Nat, (1 ≤ month ∧ month ≤ 12) ∧ (1 ≤ dayOfMonth ∧ dayOfMonth ≤ 31) ∧
      (dayOfMonth : Int) = day - (153 * ((5 * day + 2) / 153) + 2) / 5 + 1 ∧
      ((2 < month ∧ (month : Int) = (5 * day + 2) / 153 + 3 ∧
          ofParts cycle year day = ⟨year + cycle * 400, month, dayOfMonth⟩) ∨
        (month ≤ 2 ∧ (month : Int) = (5 * day + 2) / 153 - 9 ∧
          ofParts cycle year day = ⟨year + cycle * 400 + 1, month, dayOfMonth⟩)) := by
  by_cases hlate : (5 * day + 2) / 153 < 10
  · refine ⟨((5 * day + 2) / 153 + 3).toNat, _, by omega, by omega,
      Int.toNat_of_nonneg (by omega), Or.inl ⟨by omega, by omega, ?_⟩⟩
    simp only [ofParts, if_pos hlate]
    rw [if_neg (by omega)]
  · refine ⟨((5 * day + 2) / 153 - 9).toNat, _, by omega, by omega,
      Int.toNat_of_nonneg (by omega), Or.inr ⟨by omega, by omega, ?_⟩⟩
    simp only [ofParts, if_neg hlate]
    rw [if_pos (by omega)]

theorem dayNumber_ofParts {cycle year day : Int} (hyear : 0 ≤ year ∧ year < 400)
    (hday : 0 ≤ day ∧ day < 366) :
    dayNumber (ofParts cycle year day).year (ofParts cycle year day).month
        (ofParts cycle year day).day
      = cycle * cycleDays + (daysBefore year + day) - epochShift := by
  obtain ⟨month, dayOfMonth, -, -, hdom, ⟨hmonth, hval, h⟩ | ⟨hmonth, hval, h⟩⟩ :=
    ofParts_cases cycle year hday
  · simp only [h, dayNumber, if_neg (Nat.not_le.mpr hmonth), daysBefore, cycleDays]
    omega
  · simp only [h, dayNumber, if_pos hmonth, daysBefore, cycleDays]
    omega

/-- **A date names its day.** -/
theorem dayNumber_date (n : Int) : dayNumber (date n).year (date n).month (date n).day = n := by
  obtain ⟨cycle, year, day, hyear, hday, -, hsum, hdate⟩ := exists_parts n
  rw [hdate, dayNumber_ofParts hyear hday, ← hsum]
  omega

theorem date_le (n : Int) : (date n).month ≤ 12 ∧ (date n).day ≤ 31 := by
  obtain ⟨cycle, year, day, -, hday, -, -, hdate⟩ := exists_parts n
  obtain ⟨month, dayOfMonth, hmonth, hdom, -, ⟨-, -, h⟩ | ⟨-, -, h⟩⟩ :=
    ofParts_cases cycle year hday
  · exact hdate ▸ h ▸ ⟨hmonth.2, hdom.2⟩
  · exact hdate ▸ h ▸ ⟨hmonth.2, hdom.2⟩

end Calendar
end WebSso
