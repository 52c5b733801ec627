import RelationQuery.Calendar.Timestamp
import RelationQuery.Text.Words

/-!
# Reading dates and times

A moment is written in one of four forms, tried in turn: the internet form with its offset from
universal time, a date and a time with a blank or a `T` between them, and a date alone.
-/

namespace RelationQuery

/-- A time of day. Second 60 is the leap second behind second 59. -/
structure TimeOfDay where
  hour : Nat
  minute : Nat
  second : Nat
  nanos : Nat
  deriving DecidableEq, Repr

namespace TimeOfDay

def isValid (time : TimeOfDay) : Bool :=
  time.hour < 24 && time.minute < 60 && time.second ≤ 60

def secondOfDay (time : TimeOfDay) : Nat :=
  time.hour * 3600 + time.minute * 60 + min time.second 59

def nanosOfSecond (time : TimeOfDay) : Nat :=
  time.nanos + if time.second = 60 then nanosPerSecond else 0

/-- The time on a calendar day, `offset` seconds before universal time. -/
def on? (time : TimeOfDay) (civil : Civil) (offset : Int) : Option Timestamp :=
  if time.isValid then do
    let date ← Date.ofCivil? civil
    Timestamp.ofParts? (date.day * secondsPerDay + time.secondOfDay - offset) time.nanosOfSecond
  else none

end TimeOfDay

namespace Calendar

open Text

/-- Nine digits of a fraction, zeros standing for those not written. -/
def nanosOf (digits : List Char) : Nat :=
  digitsValue (digits.take 9) * 10 ^ (9 - (digits.take 9).length)

def readFraction? : List Char → Option (Nat × List Char)
  | '.' :: rest =>
      let digits := rest.takeWhile Char.isDigit
      if digits.isEmpty then none else some (nanosOf digits, rest.dropWhile Char.isDigit)
  | rest => some (0, rest)

/-! ## The internet form -/

def isDateTimeMark (c : Char) : Bool := c == 'T' || c == 't' || c == ' '

def readOffset? : List Char → Option Int
  | ['Z'] => some 0
  | ['z'] => some 0
  | sign :: text => do
      let negative ← if sign == '+' then some false
        else if sign == '-' || sign == '\u2212' then some true else none
      let (hours, rest) ← cutNumber? 2 text
      let (minutes, rest) ← cutNumber? 2 (← cutChar? ':' rest)
      if rest.isEmpty && minutes < 60 && hours < 24 then
        let seconds : Int := hours * 3600 + minutes * 60
        some (if negative then -seconds else seconds)
      else none
  | [] => none

/-- `2024-03-01T12:30:00.5+01:00`. -/
def readInternet? (text : List Char) : Option Timestamp := do
  let (year, rest) ← cutNumber? 4 text
  let (month, rest) ← cutNumber? 2 (← cutChar? '-' rest)
  let (day, rest) ← cutNumber? 2 (← cutChar? '-' rest)
  let rest ← match rest with
    | mark :: rest => if isDateTimeMark mark then some rest else none
    | [] => none
  let (hour, rest) ← cutNumber? 2 rest
  let (minute, rest) ← cutNumber? 2 (← cutChar? ':' rest)
  let (second, rest) ← cutNumber? 2 (← cutChar? ':' rest)
  let (nanos, rest) ← readFraction? rest
  let offset ← readOffset? rest
  TimeOfDay.on? ⟨hour, minute, second, nanos⟩ ⟨year, month, day⟩ offset

/-! ## The free forms -/

/-- A number of at most `count` digits behind any blanks, and the rest. -/
def readField? (count : Nat) (text : List Char) : Option (Nat × List Char) :=
  let (digits, rest) := cutDigits count (trimLeft text)
  if digits.isEmpty then none else some (digitsValue digits, rest)

/-- A year of at most four digits, or of any number of digits behind a sign. -/
def readYear? (text : List Char) : Option (Int × List Char) :=
  match trimLeft text with
  | '-' :: rest => (readSigned rest).map fun (year, rest) => (-(year : Int), rest)
  | '+' :: rest => (readSigned rest).map fun (year, rest) => ((year : Int), rest)
  | rest => (readField? 4 rest).map fun (year, rest) => ((year : Int), rest)
where
  readSigned (text : List Char) : Option (Nat × List Char) :=
    let digits := text.takeWhile Char.isDigit
    if digits.isEmpty then none
    else some (digitsValue digits, text.dropWhile Char.isDigit)

def readCivil? (text : List Char) : Option (Civil × List Char) := do
  let (year, rest) ← readYear? text
  let (month, rest) ← readField? 2 (← cutChar? '-' rest)
  let (day, rest) ← readField? 2 (← cutChar? '-' rest)
  some (⟨year, month, day⟩, rest)

def readTime? (text : List Char) : Option (TimeOfDay × List Char) := do
  let (hour, rest) ← readField? 2 text
  let (minute, rest) ← readField? 2 (← cutChar? ':' rest)
  let (second, rest) ← readField? 2 (← cutChar? ':' rest)
  let (nanos, rest) ← readFraction? rest
  some (⟨hour, minute, second, nanos⟩, rest)

/-- A date and a time, with what `between` takes away between them. -/
def readDateTime? (between : List Char → Option (List Char)) (text : List Char) :
    Option Timestamp := do
  let (civil, rest) ← readCivil? text
  let (time, rest) ← readTime? (← between rest)
  if rest.isEmpty then time.on? civil 0 else none

def readDate? (text : List Char) : Option Timestamp := do
  let (civil, rest) ← readCivil? text
  if rest.isEmpty then (Date.ofCivil? civil).map Timestamp.ofDate else none

end Calendar

def Timestamp.read? (text : List Char) : Option Timestamp :=
  let text := Text.trim text
  Calendar.readInternet? text <|>
    Calendar.readDateTime? (fun rest => some (Text.trimLeft rest)) text <|>
    Calendar.readDateTime? (Text.cutChar? 'T') text <|>
    Calendar.readDate? text

end RelationQuery
