import Mathlib.Tactic.IntervalCases
import RelationQuery.Calendar.Date

/-!
# Days of the calendar

The calendar day at a distance from 1970-01-01 is a day of the calendar, and lies at that distance.
A day of an era is taken apart into its century, its four years, its year and its day; in a year
that starts in March, a day is a month and a day of it.
-/

namespace RelationQuery.Civil

/-! ## Eras -/

/-- A day of an era of 400 years, by the century, the four years and the year that it lies in. Only
the last of four years has a day 365, and the last of a century's only if it ends the era. -/
structure EraDay (number century quad year day : Nat) : Prop where
  sum : number = 36524 * century + 1461 * quad + 365 * year + day
  century_le : century ≤ 3
  quad_le : quad ≤ 24
  year_le : year ≤ 3
  day_le : day ≤ 364 ∨ day = 365 ∧ year = 3 ∧ (quad < 24 ∨ century = 3)

theorem exists_eraDay {number : Nat} (inEra : number < 146097) :
    ∃ century quad year day, EraDay number century quad year day := by
  let century := min (number / 36524) 3
  let dayOfCentury := number - 36524 * century
  let dayOfQuad := dayOfCentury % 1461
  let year := min (dayOfQuad / 365) 3
  refine ⟨century, dayOfCentury / 1461, year, dayOfQuad - 365 * year, ?_, ?_, ?_, ?_, ?_⟩ <;> omega

namespace EraDay

variable {number century quad year day : Nat} (parts : EraDay number century quad year day)

include parts

/-- The quotient that counts the years of an era: the days that leap years add are taken away. -/
theorem yearOfEra :
    (number - number / 1460 + number / 36524 - number / 146096) / 365 =
      100 * century + 4 * quad + year := by
  obtain ⟨sum, centuries, quads, years, days⟩ := parts
  have centuryCount : number / 36524 = century + number / 146096 := by
    by_cases last : number = 146096
    · subst last
      omega
    · have inside : number / 36524 = century := by omega
      have before : number / 146096 = 0 := by omega
      omega
  have quadCount : number / 1460 =
      25 * century + quad + if 1460 ≤ 24 * century + quad + 365 * year + day then 1 else 0 := by
    split <;> omega
  rw [centuryCount, quadCount]
  split <;> omega

/-- The day of the year is what is left behind the years before. -/
theorem dayOfYear {yearOfEra : Nat} (same : yearOfEra = 100 * century + 4 * quad + year) :
    number - (365 * yearOfEra + yearOfEra / 4 - yearOfEra / 100) = day := by
  obtain ⟨rfl, centuries, quads, years, days⟩ := parts
  omega

/-- Day 365 is the leap day of the year in which the year that starts in March ends. -/
theorem isLeap_next (era : Int) (last : day = 365) :
    isLeap (((100 * century + 4 * quad + year : Nat) : Int) + era * 400 + 1) = true := by
  obtain ⟨-, centuries, quads, years, days⟩ := parts
  simp only [isLeap, Bool.and_eq_true, Bool.or_eq_true, decide_eq_true_eq]
  omega

end EraDay

/-! ## Years that start in March -/

/-- A day of the year that starts in March of `year`. -/
def ofMarchDay (year : Int) (dayOfYear : Nat) : Civil :=
  let monthFromMarch := (5 * dayOfYear + 2) / 153
  let month := if monthFromMarch < 10 then monthFromMarch + 3 else monthFromMarch - 9
  { year := if month ≤ 2 then year + 1 else year
    month
    day := dayOfYear - (153 * monthFromMarch + 2) / 5 + 1 }

/-- The months from March to December lie in the year itself, January and February in the next. -/
theorem ofMarchDay_cases (year : Int) {dayOfYear : Nat} (inYear : dayOfYear ≤ 365) :
    ∃ month day, dayOfYear = (153 * month + 2) / 5 + day ∧ dayOfYear < (153 * (month + 1) + 2) / 5 ∧
      (month < 10 ∧ ofMarchDay year dayOfYear = ⟨year, month + 3, day + 1⟩ ∨
        (month = 10 ∨ month = 11) ∧ ofMarchDay year dayOfYear = ⟨year + 1, month - 9, day + 1⟩) := by
  refine ⟨(5 * dayOfYear + 2) / 153, dayOfYear - (153 * ((5 * dayOfYear + 2) / 153) + 2) / 5,
    by omega, by omega, ?_⟩
  by_cases early : (5 * dayOfYear + 2) / 153 < 10
  · have inside : ¬(5 * dayOfYear + 2) / 153 + 3 ≤ 2 := by omega
    exact .inl ⟨early, by simp only [ofMarchDay, if_pos early, if_neg inside]⟩
  · have next : (5 * dayOfYear + 2) / 153 - 9 ≤ 2 := by omega
    exact .inr ⟨by omega, by simp only [ofMarchDay, if_neg early, if_pos next]⟩

theorem dayNumber_ofMarchDay {year : Int} {dayOfYear : Nat} (inYear : dayOfYear ≤ 365) :
    (ofMarchDay year dayOfYear).dayNumber =
      365 * year + year / 4 - year / 100 + year / 400 + dayOfYear - 719468 := by
  obtain ⟨month, day, sum, -, ⟨early, same⟩ | ⟨late, same⟩⟩ := ofMarchDay_cases year inYear
  · have inside : ¬month + 3 ≤ 2 := by omega
    have again : (month + 3 + 9) % 12 = month := by omega
    simp only [same, dayNumber, daysBeforeMonth, if_neg inside, again]
    omega
  · have next : month - 9 ≤ 2 := by omega
    have again : (month - 9 + 9) % 12 = month := by omega
    simp only [same, dayNumber, daysBeforeMonth, if_pos next, again, Int.add_sub_cancel]
    omega

theorem isValid_ofMarchDay {year : Int} {dayOfYear : Nat} (inYear : dayOfYear ≤ 365)
    (leap : dayOfYear = 365 → isLeap (year + 1) = true) :
    (ofMarchDay year dayOfYear).isValid = true := by
  obtain ⟨month, day, sum, inMonth, ⟨early, same⟩ | ⟨rfl | rfl, same⟩⟩ :=
    ofMarchDay_cases year inYear
  · rw [same]
    interval_cases month <;> simp [isValid, monthLength] <;> omega
  · rw [same]
    simp [isValid, monthLength]
    omega
  · rw [same]
    by_cases leapDay : dayOfYear = 365
    · simp [isValid, monthLength, leap leapDay]
      omega
    · simp [isValid, monthLength]
      split <;> omega

/-! ## All days -/

/-- A day at a distance from 1970-01-01 is a day of a year that starts in March. -/
theorem ofDayNumber_eq_ofMarchDay (number : Int) :
    ∃ (year : Int) (dayOfYear : Nat), ofDayNumber number = ofMarchDay year dayOfYear ∧
      dayOfYear ≤ 365 ∧ (dayOfYear = 365 → isLeap (year + 1) = true) ∧
      365 * year + year / 4 - year / 100 + year / 400 + dayOfYear - 719468 = number := by
  have inEra : ((number + 719468) % 146097).toNat < 146097 := by omega
  obtain ⟨century, quad, year, day, parts⟩ := exists_eraDay inEra
  refine ⟨(100 * century + 4 * quad + year : Nat) + (number + 719468) / 146097 * 400, day, ?_, ?_,
    parts.isLeap_next _, ?_⟩
  · rw [ofDayNumber]
    simp only [parts.yearOfEra, parts.dayOfYear rfl]
    rfl
  · have := parts.day_le
    omega
  · obtain ⟨sum, centuries, quads, years, -⟩ := parts
    omega

theorem dayNumber_ofDayNumber (number : Int) : (ofDayNumber number).dayNumber = number := by
  obtain ⟨year, dayOfYear, same, inYear, -, distance⟩ := ofDayNumber_eq_ofMarchDay number
  rw [same, dayNumber_ofMarchDay inYear, distance]

theorem isValid_ofDayNumber (number : Int) : (ofDayNumber number).isValid = true := by
  obtain ⟨year, dayOfYear, same, inYear, leap, -⟩ := ofDayNumber_eq_ofMarchDay number
  rw [same, isValid_ofMarchDay inYear leap]

/-- Months and days are written with two digits. -/
theorem lt_of_isValid {civil : Civil} (valid : civil.isValid = true) :
    civil.month < 10 ^ 2 ∧ civil.day < 10 ^ 2 := by
  have most : monthLength civil.year civil.month ≤ 31 := by
    unfold monthLength
    split
    · split <;> decide
    · split <;> decide
  simp only [isValid, Bool.and_eq_true, decide_eq_true_eq] at valid
  omega

end RelationQuery.Civil

namespace RelationQuery.Date

theorem isValid_civil (date : Date) : date.civil.isValid = true := Civil.isValid_ofDayNumber date.day

/-- The calendar day of a date is that date. -/
theorem ofCivil?_civil (date : Date) : ofCivil? date.civil = some date := by
  have distance := Civil.dayNumber_ofDayNumber date.day
  rw [ofCivil?, if_pos date.isValid_civil, civil, distance, ofDay?_day]

end RelationQuery.Date
