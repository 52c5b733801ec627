import RelationQuery.Calendar.Date

/-!
# Timestamps

A timestamp counts the seconds from the start of 1970-01-01 in universal time, and the nanoseconds
in its second. The last second of a minute may hold a leap second behind it: its nanoseconds then go
on to twice a thousand million.
-/

namespace RelationQuery

def secondsPerDay : Int := 86400

def nanosPerSecond : Nat := 10 ^ 9

structure Timestamp where
  seconds : Int
  nanos : Nat
  seconds_ge : -8334601228800 ≤ seconds
  seconds_le : seconds ≤ 8210266876799
  nanos_lt : nanos < 10 ^ 9 ∨ nanos < 2 * 10 ^ 9 ∧ seconds % 60 = 59
  deriving DecidableEq, Repr

namespace Timestamp

def ofParts? (seconds : Int) (nanos : Nat) : Option Timestamp :=
  if inRange : -8334601228800 ≤ seconds ∧ seconds ≤ 8210266876799 ∧
      (nanos < 10 ^ 9 ∨ nanos < 2 * 10 ^ 9 ∧ seconds % 60 = 59) then
    some ⟨seconds, nanos, inRange.1, inRange.2.1, inRange.2.2⟩
  else none

/-- A number of nanoseconds below or above the start of a second. -/
def ofNanos? (nanos : Int) : Option Timestamp :=
  ofParts? (nanos / nanosPerSecond) (nanos % nanosPerSecond).toNat

def ofDate (date : Date) : Timestamp where
  seconds := date.day * 86400
  nanos := 0
  seconds_ge := by have := date.day_ge; omega
  seconds_le := by have := date.day_le; omega
  nanos_lt := .inl (by decide)

def date (moment : Timestamp) : Date where
  day := moment.seconds / 86400
  day_ge := by have := moment.seconds_ge; omega
  day_le := by have := moment.seconds_le; omega

def secondOfDay (moment : Timestamp) : Nat := (moment.seconds % 86400).toNat

/-- The fraction of a second: nothing, or as few of 3, 6 and 9 digits as hold it. -/
def fractionText (nanos : Nat) : List Char :=
  if nanos = 0 then []
  else if nanos % 10 ^ 6 = 0 then '.' :: Text.padded 3 (nanos / 10 ^ 6)
  else if nanos % 10 ^ 3 = 0 then '.' :: Text.padded 6 (nanos / 10 ^ 3)
  else '.' :: Text.padded 9 nanos

/-- The time of day; a leap second is second 60. -/
def timeText (moment : Timestamp) : List Char :=
  let second := moment.secondOfDay
  let leap := moment.nanos / nanosPerSecond
  Text.padded 2 (second / 3600) ++ ':' :: Text.padded 2 (second / 60 % 60) ++
    ':' :: Text.padded 2 (second % 60 + leap) ++ fractionText (moment.nanos % nanosPerSecond)

def localText (moment : Timestamp) : List Char := moment.date.text ++ 'T' :: moment.timeText

def text (moment : Timestamp) : List Char := moment.localText ++ ['+', '0', '0', ':', '0', '0']

/-- Going to the first moment of a day and back changes nothing. -/
theorem date_ofDate (date : Date) : (ofDate date).date = date := by
  simp [ofDate, Timestamp.date]

theorem ofParts?_parts (moment : Timestamp) :
    ofParts? moment.seconds moment.nanos = some moment :=
  dif_pos ⟨moment.seconds_ge, moment.seconds_le, moment.nanos_lt⟩

/-- A timestamp has the parts that it is made of. -/
theorem parts_ofParts? {seconds : Int} {nanos : Nat} {moment : Timestamp}
    (made : ofParts? seconds nanos = some moment) :
    moment.seconds = seconds ∧ moment.nanos = nanos := by
  unfold ofParts? at made
  split at made
  · cases made
    exact ⟨rfl, rfl⟩
  · contradiction

end Timestamp

end RelationQuery
