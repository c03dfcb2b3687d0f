import Accounts.Time.Calendar
/-!
# Days and their dates

Four hundred years of the count have 146097 days, and they are cut into centuries, into four
years each and into single years; only the last piece of each cut can be a day longer than the
others.  So the formula for the year is exact (`yearOfEra_eq`), and the day of the year tells
month and day.

The number of a date is undone by the date of the number, and the date of a number is one that
the calendar has.
-/

namespace Accounts.Date

/-! ## Years of an era -/

/-- The days of an era before a year of it. -/
def daysBefore (y : Int) : Int := y * 365 + y / 4 - y / 100

/-- The formula for the year of a day of an era. -/
def yearOfEra (d : Int) : Int := (d - d / 1460 + d / 36524 - d / 146096) / 365

theorem daysBefore_eq {c k j : Int} (hk : 0 ≤ k ∧ k ≤ 24) (hj : 0 ≤ j ∧ j ≤ 3) :
    daysBefore (100 * c + 4 * k + j) = 36524 * c + 1461 * k + 365 * j := by
  have h4 : (100 * c + 4 * k + j) / 4 = 25 * c + k := by omega
  have h100 : (100 * c + 4 * k + j) / 100 = c := by omega
  rw [daysBefore, h4, h100]
  omega

/-- The formula counts years of 365 days, once the leap days before them are left out. -/
theorem yearOfEra_eq {c k j r : Int} (hc : 0 ≤ c ∧ c ≤ 3) (hk : 0 ≤ k ∧ k ≤ 24)
    (hj : 0 ≤ j ∧ j ≤ 3) (h0 : 0 ≤ r) (hr : r ≤ 364 ∨ (r = 365 ∧ j = 3 ∧ (k ≤ 23 ∨ c = 3))) :
    yearOfEra (36524 * c + 1461 * k + 365 * j + r) = 100 * c + 4 * k + j := by
  generalize hd : 36524 * c + 1461 * k + 365 * j + r = d
  have hfour : d / 1460 = 25 * c + k + (if 1460 ≤ 24 * c + k + 365 * j + r then 1 else 0) := by
    split <;> omega
  have hcentury : d / 36524 - d / 146096 = c := by
    by_cases hlast : d = 146096
    · omega
    · have hnext : d < 36524 * (c + 1) := by omega
      omega
  rw [yearOfEra]
  split at hfour <;> omega

/-- A day of an era lies in a year of it; the last day of a year of 366 days is a leap day. -/
theorem exists_year {d : Int} (h0 : 0 ≤ d) (h1 : d < 146097) :
    ∃ y r : Int, yearOfEra d = y ∧ d - daysBefore y = r ∧ (0 ≤ y ∧ y ≤ 399) ∧ 0 ≤ r ∧
      (r ≤ 364 ∨ (r = 365 ∧ isLeap (y + 1) = true)) := by
  -- a century of an era, four years of a century, and a year of these
  obtain ⟨c, e, rfl, hc, he0, he⟩ : ∃ c e : Int, d = 36524 * c + e ∧ (0 ≤ c ∧ c ≤ 3) ∧ 0 ≤ e ∧
      (e ≤ 36523 ∨ (e = 36524 ∧ c = 3)) := by
    by_cases hlast : d = 146096
    · exact ⟨3, 36524, by omega, by omega, by omega, .inr ⟨rfl, rfl⟩⟩
    · exact ⟨d / 36524, d % 36524, by omega, by omega, by omega, .inl (by omega)⟩
  obtain ⟨k, f, rfl, hk, hf0, hf⟩ : ∃ k f : Int, e = 1461 * k + f ∧ (0 ≤ k ∧ k ≤ 24) ∧ 0 ≤ f ∧
      f ≤ 1460 := ⟨e / 1461, e % 1461, by omega, by omega, by omega, by omega⟩
  obtain ⟨j, r, rfl, hj, hr0, hr⟩ : ∃ j r : Int, f = 365 * j + r ∧ (0 ≤ j ∧ j ≤ 3) ∧ 0 ≤ r ∧
      (r ≤ 364 ∨ (r = 365 ∧ j = 3 ∧ (k ≤ 23 ∨ c = 3))) := by
    by_cases hlast : f = 1460
    · exact ⟨3, 365, by omega, by omega, by omega, by omega⟩
    · exact ⟨f / 365, f % 365, by omega, by omega, by omega, .inl (by omega)⟩
  have hday : 36524 * c + (1461 * k + (365 * j + r)) = 36524 * c + 1461 * k + 365 * j + r := by
    omega
  refine ⟨100 * c + 4 * k + j, r, ?_, ?_, ?_, hr0, ?_⟩
  · rw [hday, yearOfEra_eq hc hk hj hr0 hr]
  · rw [hday, daysBefore_eq hk hj]
    omega
  · clear he hday
    omega
  · refine hr.imp_right fun ⟨hr, hlast, hrule⟩ => ⟨hr, ?_⟩
    simp only [isLeap, Bool.and_eq_true, Bool.or_eq_true, beq_iff_eq, bne_iff_ne]
    clear he hday
    omega

theorem ofDayNumber_eq {n era d y r : Int} (hera : (n + 719468) / 146097 = era)
    (hd : (n + 719468) % 146097 = d) (hy : yearOfEra d = y) (hr : d - daysBefore y = r)
    (h0 : 0 ≤ r) :
    ofDayNumber n =
      let m := (5 * r + 2) / 153
      if m < 10 then ⟨y + era * 400, (m + 3).toNat, (r - (153 * m + 2) / 5 + 1).toNat⟩
      else ⟨y + era * 400 + 1, (m - 9).toNat, (r - (153 * m + 2) / 5 + 1).toNat⟩ := by
  have hr : d - (365 * y + y / 4 - y / 100) = r := by
    rw [Int.mul_comm]
    exact hr
  rw [yearOfEra] at hy
  simp only [ofDayNumber, hera, hd, hy, hr]
  split
  · next hm => rw [if_neg (by omega), Int.add_zero]
  · next hm => rw [if_pos (by omega)]

/-! ## Dates -/

theorem isLeap_add_era (y era : Int) : isLeap (y + era * 400) = isLeap y := by
  have h4 : (y + era * 400) % 4 = y % 4 := by omega
  have h100 : (y + era * 400) % 100 = y % 100 := by omega
  have h400 : (y + era * 400) % 400 = y % 400 := by omega
  rw [isLeap, isLeap, h4, h100, h400]

/-- The date of a day in terms of its era, its year of the era and its day of the year. -/
theorem exists_ofDayNumber (n : Int) : ∃ era y r m : Int,
    n = era * 146097 + (daysBefore y + r) - 719468 ∧ (0 ≤ y ∧ y ≤ 399) ∧ 0 ≤ r ∧
      (r ≤ 364 ∨ (r = 365 ∧ isLeap (y + era * 400 + 1) = true)) ∧ m = (5 * r + 2) / 153 ∧
      ofDayNumber n = if m < 10 then
          ⟨y + era * 400, (m + 3).toNat, (r - (153 * m + 2) / 5 + 1).toNat⟩
        else ⟨y + era * 400 + 1, (m - 9).toNat, (r - (153 * m + 2) / 5 + 1).toNat⟩ := by
  obtain ⟨y, r, hy, hr, hbounds, h0, hlast⟩ := exists_year (d := (n + 719468) % 146097)
    (by omega) (by omega)
  refine ⟨(n + 719468) / 146097, y, r, (5 * r + 2) / 153, by omega, hbounds, h0, ?_, rfl,
    ofDayNumber_eq rfl rfl hy hr h0⟩
  rwa [Int.add_right_comm, isLeap_add_era]

/-- The date of a day has a day that its month has. -/
theorem day_ofDayNumber (n : Int) : 1 ≤ (ofDayNumber n).day ∧
    (ofDayNumber n).day ≤ daysInMonth (ofDayNumber n).year (ofDayNumber n).month := by
  obtain ⟨era, y, r, m, -, -, h0, hr, hm, heq⟩ := exists_ofDayNumber n
  have hfirst : 1 ≤ r - (153 * m + 2) / 5 + 1 := by omega
  rw [heq]
  split
  · simp only [daysInMonth]
    rw [if_neg (by omega)]
    constructor
    · omega
    · split <;> omega
  · simp only [daysInMonth]
    constructor
    · omega
    split
    · rcases hr with hr | ⟨hr, hleap⟩
      · split <;> omega
      · rw [if_pos hleap]
        omega
    · rw [if_neg (by omega)]
      omega

/-- The days from the first to the last one lie in the years from the first to the last one. -/
theorem year_ofDayNumber {n : Int} (hleast : -96465292 ≤ n) (hgreatest : n ≤ 95026236) :
    -262143 ≤ (ofDayNumber n).year ∧ (ofDayNumber n).year ≤ 262142 := by
  obtain ⟨era, y, r, m, hn, hy, h0, hr, hm, heq⟩ := exists_ofDayNumber n
  have hr : r ≤ 365 := by omega
  rw [daysBefore] at hn
  rw [heq]
  split
  · simp only
    omega
  · have hera : era ≤ 655 := by omega
    have hyear : era = 655 → y ≤ 141 := by
      rintro rfl
      omega
    simp only
    omega

end Accounts.Date
