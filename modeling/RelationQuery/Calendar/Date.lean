import RelationQuery.Text.Digits

/-!
# Dates

A date is a day, counted from 1970-01-01, in the years from -262143 to 262142 of the Gregorian
calendar extended to all years. Years of the calendar start in March for the computation, so that
the leap day is the last day of its year.
-/

namespace RelationQuery

structure Civil where
  year : Int
  month : Nat
  day : Nat
  deriving DecidableEq, Repr

namespace Civil

def isLeap (year : Int) : Bool := year % 4 = 0 && (year % 100 ≠ 0 || year % 400 = 0)

def monthLength (year : Int) (month : Nat) : Nat :=
  if month = 2 then if isLeap year then 29 else 28
  else if month = 4 ∨ month = 6 ∨ month = 9 ∨ month = 11 then 30
  else 31

def isValid (civil : Civil) : Bool :=
  1 ≤ civil.month && civil.month ≤ 12 && 1 ≤ civil.day &&
    civil.day ≤ monthLength civil.year civil.month

/-- The days before a month, counted from the first of March. -/
def daysBeforeMonth (month : Nat) : Nat := (153 * ((month + 9) % 12) + 2) / 5

/-- The day counted from 1970-01-01. -/
def dayNumber (civil : Civil) : Int :=
  let year := if civil.month ≤ 2 then civil.year - 1 else civil.year
  365 * year + year / 4 - year / 100 + year / 400 + daysBeforeMonth civil.month + civil.day - 719469

def ofDayNumber (number : Int) : Civil :=
  let shifted := number + 719468
  let era := shifted / 146097
  let dayOfEra := (shifted % 146097).toNat
  let yearOfEra :=
    (dayOfEra - dayOfEra / 1460 + dayOfEra / 36524 - dayOfEra / 146096) / 365
  let dayOfYear := dayOfEra - (365 * yearOfEra + yearOfEra / 4 - yearOfEra / 100)
  let monthFromMarch := (5 * dayOfYear + 2) / 153
  let month := if monthFromMarch < 10 then monthFromMarch + 3 else monthFromMarch - 9
  let year := yearOfEra + era * 400
  { year := if month ≤ 2 then year + 1 else year
    month
    day := dayOfYear - (153 * monthFromMarch + 2) / 5 + 1 }

/-- Four digits for the years from 0 to 9999, else a sign and at least four. -/
def yearText (year : Int) : List Char :=
  if 0 ≤ year ∧ year ≤ 9999 then Text.padded 4 year.natAbs
  else (if year < 0 then '-' else '+') :: Text.padded 4 year.natAbs

def text (civil : Civil) : List Char :=
  yearText civil.year ++ '-' :: Text.padded 2 civil.month ++ '-' :: Text.padded 2 civil.day

end Civil

/-- A day, counted from 1970-01-01. -/
structure Date where
  day : Int
  day_ge : -96465292 ≤ day
  day_le : day ≤ 95026236
  deriving DecidableEq, Repr

namespace Date

def ofDay? (day : Int) : Option Date :=
  if inRange : -96465292 ≤ day ∧ day ≤ 95026236 then some ⟨day, inRange.1, inRange.2⟩ else none

def ofCivil? (civil : Civil) : Option Date :=
  if civil.isValid then ofDay? civil.dayNumber else none

def civil (date : Date) : Civil := Civil.ofDayNumber date.day

def text (date : Date) : List Char := date.civil.text

theorem day_ofDay? {day : Int} {date : Date} (read : ofDay? day = some date) : date.day = day := by
  unfold ofDay? at read
  split at read
  · cases read
    rfl
  · contradiction

theorem ofDay?_day (date : Date) : ofDay? date.day = some date := by
  simp [ofDay?, date.day_ge, date.day_le]

end Date

end RelationQuery
