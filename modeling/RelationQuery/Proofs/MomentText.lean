import RelationQuery.Calendar.Read
import RelationQuery.Proofs.CalendarDays
import RelationQuery.Proofs.CharRuns
import RelationQuery.Proofs.DecimalText
import RelationQuery.Proofs.Trimming

/-!
# The text of moments

A moment or a day in a year of four digits is written so that reading gives it back: a moment in the
internet form, whatever its fraction of a second and its leap second, and a day in the form that is
tried last.
-/

namespace RelationQuery

open Text
open Sql (MadeOf)

def Civil.InFourDigits (civil : Civil) : Prop := 0 ≤ civil.year ∧ civil.year ≤ 9999

namespace Calendar

/-! ## Days -/

theorem text_of_inFourDigits {civil : Civil} (plain : civil.InFourDigits) :
    civil.text =
      padded 4 civil.year.natAbs ++
        '-' :: (padded 2 civil.month ++ '-' :: padded 2 civil.day) := by
  simp [Civil.text, Civil.yearText, plain.1, plain.2]

theorem civil_eta {civil : Civil} (plain : civil.InFourDigits) :
    (⟨(civil.year.natAbs : Int), civil.month, civil.day⟩ : Civil) = civil := by
  rw [Int.natAbs_of_nonneg plain.1]

/-! ## Fractions of a second -/

theorem nanosOf_padded {places n : Nat} (positive : 0 < places) (few : places ≤ 9)
    (small : n < 10 ^ places) : nanosOf (padded places n) = n * 10 ^ (9 - places) := by
  have short : (padded places n).take 9 = padded places n := by
    rw [List.take_of_length_le]
    rwa [length_padded positive small]
  rw [nanosOf, short, digitsValue_padded, length_padded positive small]

theorem readFraction?_padded {places n : Nat} (positive : 0 < places) (few : places ≤ 9)
    (small : n < 10 ^ places) {rest : List Char} (stops : Stops Char.isDigit rest) :
    readFraction? ('.' :: padded places n ++ rest) = some (n * 10 ^ (9 - places), rest) := by
  have made := isDigit_padded places n
  have filled : (padded places n).isEmpty = false := by
    rw [List.isEmpty_eq_false_iff, ne_eq, ← List.length_eq_zero_iff, length_padded positive small]
    omega
  simp [readFraction?, takeWhile_run stops made, dropWhile_run stops made, filled,
    nanosOf_padded positive few small]

/-- A fraction of a second is read back in front of the offset. -/
theorem readFraction?_fractionText {nanos : Nat} (small : nanos < 10 ^ 9) {first : Char}
    (solid : first.isDigit = false) (other : first ≠ '.') (rest : List Char) :
    readFraction? (Timestamp.fractionText nanos ++ first :: rest) = some (nanos, first :: rest) := by
  have stops : Stops Char.isDigit (first :: rest) := stops_cons solid rest
  unfold Timestamp.fractionText
  split
  next none => simp [readFraction?, none, other]
  split
  next millis =>
    rw [readFraction?_padded (by decide) (by decide) (by omega) stops]
    congr 2
    omega
  split
  next micros =>
    rw [readFraction?_padded (by decide) (by decide) (by omega) stops]
    congr 2
    omega
  · rw [readFraction?_padded (by decide) (by decide) small stops]
    simp

/-! ## The time of day -/

/-- The time of day of a moment, a leap second as second 60. -/
def timeOf (moment : Timestamp) : TimeOfDay where
  hour := moment.secondOfDay / 3600
  minute := moment.secondOfDay / 60 % 60
  second := moment.secondOfDay % 60 + moment.nanos / nanosPerSecond
  nanos := moment.nanos % nanosPerSecond

theorem secondOfDay_lt (moment : Timestamp) : moment.secondOfDay < 86400 := by
  unfold Timestamp.secondOfDay
  omega

/-- A leap second lies behind second 59. -/
theorem leap_cases (moment : Timestamp) :
    moment.nanos / nanosPerSecond = 0 ∨
      moment.nanos / nanosPerSecond = 1 ∧ moment.secondOfDay % 60 = 59 := by
  have bounded := moment.nanos_lt
  simp only [nanosPerSecond, Timestamp.secondOfDay]
  omega

theorem timeOf_bounds (moment : Timestamp) :
    (timeOf moment).hour < 24 ∧ (timeOf moment).minute < 60 ∧ (timeOf moment).second ≤ 60 := by
  have inDay := secondOfDay_lt moment
  have leap := leap_cases moment
  simp only [timeOf]
  omega

/-- The time of day on the day of a moment is that moment. -/
theorem on?_timeOf (moment : Timestamp) :
    (timeOf moment).on? moment.date.civil 0 = some moment := by
  obtain ⟨hours, minutes, seconds⟩ := timeOf_bounds moment
  have valid : (timeOf moment).isValid = true := by simp [TimeOfDay.isValid, hours, minutes, seconds]
  have leap := leap_cases moment
  have inDay := secondOfDay_lt moment
  have same : moment.date.day * secondsPerDay + (timeOf moment).secondOfDay - 0 = moment.seconds := by
    have second : (timeOf moment).secondOfDay = moment.secondOfDay := by
      simp only [timeOf, TimeOfDay.secondOfDay]
      omega
    rw [second]
    simp only [Timestamp.date, Timestamp.secondOfDay, secondsPerDay]
    omega
  have fraction : (timeOf moment).nanosOfSecond = moment.nanos := by
    have whole := Nat.mod_add_div moment.nanos nanosPerSecond
    change moment.nanos % nanosPerSecond +
      (if moment.secondOfDay % 60 + moment.nanos / nanosPerSecond = 60 then nanosPerSecond else 0) =
        moment.nanos
    obtain none | ⟨one, last⟩ := leap
    · rw [none] at whole ⊢
      rw [if_neg (by omega)]
      exact whole
    · rw [one] at whole ⊢
      rw [if_pos (by omega)]
      exact whole
  rw [TimeOfDay.on?, if_pos valid, Date.ofCivil?_civil]
  simp only [Option.bind_eq_bind, Option.bind_some]
  rw [same, fraction, Timestamp.ofParts?_parts]

/-! ## Moments -/

theorem text_of_moment {moment : Timestamp} (plain : moment.date.civil.InFourDigits) :
    moment.text =
      padded 4 moment.date.civil.year.natAbs ++
        '-' :: (padded 2 moment.date.civil.month ++
        '-' :: (padded 2 moment.date.civil.day ++
        'T' :: (padded 2 (timeOf moment).hour ++
        ':' :: (padded 2 (timeOf moment).minute ++
        ':' :: (padded 2 (timeOf moment).second ++
        (Timestamp.fractionText (timeOf moment).nanos ++ ['+', '0', '0', ':', '0', '0'])))))) := by
  simp [Timestamp.text, Timestamp.localText, Date.text, text_of_inFourDigits plain,
    Timestamp.timeText, timeOf]

/-- The internet form is read part by part. -/
theorem readInternet?_of_parts {text t₁ t₂ t₃ t₄ t₅ t₆ t₇ : List Char}
    {year month day hour minute second nanos : Nat} {offset : Int}
    (years : cutNumber? 4 text = some (year, '-' :: t₁))
    (months : cutNumber? 2 t₁ = some (month, '-' :: t₂))
    (days : cutNumber? 2 t₂ = some (day, 'T' :: t₃))
    (hours : cutNumber? 2 t₃ = some (hour, ':' :: t₄))
    (minutes : cutNumber? 2 t₄ = some (minute, ':' :: t₅))
    (seconds : cutNumber? 2 t₅ = some (second, t₆))
    (fraction : readFraction? t₆ = some (nanos, t₇)) (zone : readOffset? t₇ = some offset) :
    readInternet? text = TimeOfDay.on? ⟨hour, minute, second, nanos⟩ ⟨year, month, day⟩ offset := by
  unfold readInternet?
  rw [years]
  change (cutNumber? 2 t₁ >>= _) = _
  rw [months]
  change (cutNumber? 2 t₂ >>= _) = _
  rw [days]
  change (cutNumber? 2 t₃ >>= _) = _
  rw [hours]
  change (cutNumber? 2 t₄ >>= _) = _
  rw [minutes]
  change (cutNumber? 2 t₅ >>= _) = _
  rw [seconds]
  change (readFraction? t₆ >>= _) = _
  rw [fraction]
  change (readOffset? t₇ >>= _) = _
  rw [zone]
  rfl

/-- The internet form does not end behind the day. -/
theorem readInternet?_of_day {text t₁ t₂ : List Char} {year month day : Nat}
    (years : cutNumber? 4 text = some (year, '-' :: t₁))
    (months : cutNumber? 2 t₁ = some (month, '-' :: t₂))
    (days : cutNumber? 2 t₂ = some (day, [])) : readInternet? text = none := by
  unfold readInternet?
  rw [years]
  change (cutNumber? 2 t₁ >>= _) = _
  rw [months]
  change (cutNumber? 2 t₂ >>= _) = _
  rw [days]
  rfl

theorem year_lt {civil : Civil} (plain : civil.InFourDigits) : civil.year.natAbs < 10 ^ 4 := by
  have low := plain.1
  have high := plain.2
  omega

/-- A moment is written in the internet form. -/
theorem readInternet?_text {moment : Timestamp} (plain : moment.date.civil.InFourDigits) :
    readInternet? moment.text = some moment := by
  obtain ⟨months, days⟩ := Civil.lt_of_isValid moment.date.isValid_civil
  obtain ⟨inDay, inHour, inMinute⟩ := timeOf_bounds moment
  have hours : (timeOf moment).hour < 10 ^ 2 := by omega
  have minutes : (timeOf moment).minute < 10 ^ 2 := by omega
  have seconds : (timeOf moment).second < 10 ^ 2 := by omega
  have small : (timeOf moment).nanos < 10 ^ 9 := Nat.mod_lt _ (by decide)
  have zone : readOffset? ['+', '0', '0', ':', '0', '0'] = some 0 := by decide
  rw [text_of_moment plain,
    readInternet?_of_parts (cutNumber?_padded (by decide) (year_lt plain) _)
      (cutNumber?_padded (by decide) months _) (cutNumber?_padded (by decide) days _)
      (cutNumber?_padded (by decide) hours _) (cutNumber?_padded (by decide) minutes _)
      (cutNumber?_padded (by decide) seconds _) (readFraction?_fractionText small rfl (by decide) _)
      zone,
    civil_eta plain]
  exact on?_timeOf moment

/-! ## Days alone -/

section

variable {width n : Nat} (positive : 0 < width) (small : n < 10 ^ width) (rest : List Char)

include positive small

theorem exists_padded :
    ∃ first others, padded width n ++ rest = first :: others ∧ first.isDigit = true := by
  have long := length_padded positive small
  cases written : padded width n with
  | nil =>
      rw [written] at long
      exact absurd long (Nat.ne_of_lt positive)
  | cons first others =>
      have digit : first.isDigit = true := isDigit_padded width n first (by simp [written])
      exact ⟨first, others ++ rest, rfl, digit⟩

theorem trimLeft_padded : trimLeft (padded width n ++ rest) = padded width n ++ rest := by
  obtain ⟨first, others, begins, digit⟩ := exists_padded positive small rest
  rw [begins, trimLeft_cons (not_blank_of_digit digit)]

theorem readField?_padded : readField? width (padded width n ++ rest) = some (n, rest) := by
  have filled : (padded width n).isEmpty = false := by
    rw [List.isEmpty_eq_false_iff, ne_eq, ← List.length_eq_zero_iff, length_padded positive small]
    omega
  simp [readField?, trimLeft_padded positive small, cutDigits_padded positive small, filled,
    digitsValue_padded]

end

theorem readYear?_padded {year : Nat} (small : year < 10 ^ 4) (rest : List Char) :
    readYear? (padded 4 year ++ rest) = some ((year : Int), rest) := by
  obtain ⟨first, others, begins, digit⟩ := exists_padded (by decide) small rest
  have minus := ne_of_digit digit (d := '-') (by decide)
  have plus := ne_of_digit digit (d := '+') (by decide)
  have read := readField?_padded (by decide) small rest
  rw [begins] at read ⊢
  simp [readYear?, trimLeft_cons (not_blank_of_digit digit), minus, plus, read]

/-- A date is read part by part. -/
theorem readCivil?_of_parts {text t₁ t₂ t₃ : List Char} {year : Int} {month day : Nat}
    (years : readYear? text = some (year, '-' :: t₁))
    (months : readField? 2 t₁ = some (month, '-' :: t₂))
    (days : readField? 2 t₂ = some (day, t₃)) :
    readCivil? text = some (⟨year, month, day⟩, t₃) := by
  simp [readCivil?, years, months, days, cutChar?]

section

variable {civil : Civil} (plain : civil.InFourDigits) (valid : civil.isValid = true)

include plain valid

theorem readCivil?_text : readCivil? civil.text = some (civil, []) := by
  obtain ⟨months, days⟩ := Civil.lt_of_isValid valid
  have day := readField?_padded (by decide) days []
  rw [List.append_nil] at day
  rw [text_of_inFourDigits plain,
    readCivil?_of_parts (readYear?_padded (year_lt plain) _)
      (readField?_padded (by decide) months _) day,
    civil_eta plain]

theorem readInternet?_civil : readInternet? civil.text = none := by
  obtain ⟨months, days⟩ := Civil.lt_of_isValid valid
  have day := cutNumber?_padded (by decide) days []
  rw [List.append_nil] at day
  rw [text_of_inFourDigits plain,
    readInternet?_of_day (cutNumber?_padded (by decide) (year_lt plain) _)
      (cutNumber?_padded (by decide) months _) day]

/-- A date and a time do not end behind the day. -/
theorem readDateTime?_civil {between : List Char → Option (List Char)}
    (nothing : (between []).bind readTime? = none) : readDateTime? between civil.text = none := by
  rw [readDateTime?, readCivil?_text plain valid]
  cases behind : between [] with
  | none => simp [behind]
  | some rest =>
      rw [behind] at nothing
      simp only [Option.bind_some] at nothing
      simp [behind, nothing]

theorem readDate?_text {day : Date} (same : Date.ofCivil? civil = some day) :
    readDate? civil.text = some (Timestamp.ofDate day) := by
  simp [readDate?, readCivil?_text plain valid, same]

end

end Calendar

/-! ## Reading back -/

open Calendar

/-- A text between a year and a last digit is trimmed. -/
theorem trim_of_digits {year : Nat} (small : year < 10 ^ 4) {rest front : List Char} {last : Char}
    (closes : padded 4 year ++ rest = front ++ [last]) (digit : last.isDigit = true) :
    trim (padded 4 year ++ rest) = padded 4 year ++ rest := by
  obtain ⟨first, others, begins, leading⟩ := exists_padded (by decide) small rest
  exact trim_of_ends begins closes (not_blank_of_digit leading) (not_blank_of_digit digit)

/-- A moment in a year of four digits is read back from its text. -/
theorem Timestamp.read?_text {moment : Timestamp} (plain : moment.date.civil.InFourDigits) :
    Timestamp.read? moment.text = some moment := by
  have trimmed : trim moment.text = moment.text := by
    have closes : moment.text = (moment.localText ++ ['+', '0', '0', ':', '0']) ++ ['0'] := by
      simp [Timestamp.text]
    rw [text_of_moment plain] at closes ⊢
    exact trim_of_digits (year_lt plain) closes rfl
  simp only [Timestamp.read?, trimmed, readInternet?_text plain]
  rfl

/-- A day in a year of four digits is read back from its text, as the start of that day. -/
theorem Timestamp.read?_date {day : Date} (plain : day.civil.InFourDigits) :
    Timestamp.read? day.text = some (Timestamp.ofDate day) := by
  have valid := day.isValid_civil
  have trimmed : trim day.civil.text = day.civil.text := by
    have filled : padded 2 day.civil.day ≠ [] := by
      rw [ne_eq, ← List.length_eq_zero_iff,
        length_padded (by decide) (Civil.lt_of_isValid valid).2]
      decide
    have last := isDigit_padded 2 day.civil.day _ (List.getLast_mem filled)
    have closes : padded 4 day.civil.year.natAbs ++
        '-' :: (padded 2 day.civil.month ++ '-' :: padded 2 day.civil.day) =
          (padded 4 day.civil.year.natAbs ++
            '-' :: (padded 2 day.civil.month ++ '-' :: (padded 2 day.civil.day).dropLast)) ++
              [(padded 2 day.civil.day).getLast filled] := by
      simp [List.dropLast_concat_getLast filled]
    rw [text_of_inFourDigits plain]
    exact trim_of_digits (year_lt plain) closes last
  have late : readDateTime? (fun rest => some (trimLeft rest)) day.civil.text = none :=
    readDateTime?_civil plain valid rfl
  have marked : readDateTime? (cutChar? 'T') day.civil.text = none :=
    readDateTime?_civil plain valid rfl
  simp only [Timestamp.read?, Date.text, trimmed, readInternet?_civil plain valid, late, marked,
    readDate?_text plain valid day.ofCivil?_civil]
  rfl

end RelationQuery
