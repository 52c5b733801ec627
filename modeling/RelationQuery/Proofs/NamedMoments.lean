import Mathlib.Data.List.TakeWhile
import RelationQuery.Proofs.DecimalCharacters
import RelationQuery.Proofs.MomentShapes
import RelationQuery.Proofs.MomentText
import RelationQuery.Proofs.ZoneMarks

/-!
# Moments and days that texts name

Of the texts in the shape of a moment or a day those are read whose digits are of ASCII and give a
day of the calendar and a time of it. The forms for a blank between day and time, for an offset and
for shorter numbers make no difference there.
-/

namespace RelationQuery

open Text
open Sql (MadeOf)

/-- The texts of the days of the calendar, in the digits of ASCII. -/
inductive NamesDay : List Char → Prop where
  | intro {date : DateDigits} (digits : date.Made Char.isDigit)
      (valid : date.civil.isValid = true) : NamesDay (date.text [])

/-- The texts of a day of the calendar and a time of it, in the digits of ASCII. -/
inductive NamesMoment : List Char → Prop where
  | intro {date : DateDigits} {time : TimeDigits} {fraction : List Char}
      (dateDigits : date.Made Char.isDigit) (timeDigits : time.Made Char.isDigit)
      (fractionDigits : MadeOf Char.isDigit fraction) (valid : date.civil.isValid = true)
      (inDay : (time.clock 0).isValid = true) : NamesMoment (momentText date time fraction)

/-! ## Days and times in range -/

theorem isSome_ofCivil? {civil : Civil} (plain : civil.InFourDigits) :
    (Date.ofCivil? civil).isSome = true ↔ civil.isValid = true := by
  unfold Date.ofCivil?
  split
  · rename_i valid
    refine ⟨fun _ => valid, fun _ => ?_⟩
    obtain ⟨low, high⟩ := plain
    have days := (Civil.lt_of_isValid valid).2
    have inRange : -96465292 ≤ civil.dayNumber ∧ civil.dayNumber ≤ 95026236 := by
      simp only [Civil.dayNumber, Civil.daysBeforeMonth]
      split <;> omega
    rw [Date.ofDay?, dif_pos inRange]
    rfl
  · rename_i invalid
    simp [invalid]

/-- A time of day gives a moment on a day of the calendar. -/
theorem isSome_on? {civil : Civil} (plain : civil.InFourDigits) {time : TimeOfDay}
    (small : time.nanos < 10 ^ 9) : (time.on? civil 0).isSome = true ↔
      civil.isValid = true ∧ time.isValid = true := by
  rw [← isSome_ofCivil? plain]
  unfold TimeOfDay.on?
  split
  · rename_i valid
    cases day : Date.ofCivil? civil with
    | none => simp
    | some date =>
        have low := date.day_ge
        have high := date.day_le
        obtain ⟨⟨hours, minutes⟩, seconds⟩ : (time.hour < 24 ∧ time.minute < 60) ∧
            time.second ≤ 60 := by
          simpa [TimeOfDay.isValid] using valid
        have inRange : -8334601228800 ≤ date.day * secondsPerDay + time.secondOfDay - 0 ∧
            date.day * secondsPerDay + time.secondOfDay - 0 ≤ 8210266876799 ∧
            (time.nanosOfSecond < 10 ^ 9 ∨ time.nanosOfSecond < 2 * 10 ^ 9 ∧
              (date.day * secondsPerDay + time.secondOfDay - 0) % 60 = 59) := by
          simp only [secondsPerDay, TimeOfDay.secondOfDay, TimeOfDay.nanosOfSecond, nanosPerSecond]
          split <;> omega
        simp only [Option.bind_eq_bind, Option.bind_some, Timestamp.ofParts?, dif_pos inRange]
        simp [valid]
  · rename_i invalid
    simp [invalid]

theorem DateDigits.Made.inFourDigits {date : DateDigits} (made : date.Made Char.isDigit) :
    date.civil.InFourDigits := by
  have small := digitsValue_lt made.year.made
  rw [made.year.length] at small
  change 0 ≤ ((digitsValue date.year : Nat) : Int) ∧ ((digitsValue date.year : Nat) : Int) ≤ 9999
  omega

/-! ## The internet form -/

namespace Calendar

theorem nanosOf_lt {fraction : List Char} (made : MadeOf Char.isDigit fraction) :
    nanosOf fraction < 10 ^ 9 := by
  have front : MadeOf Char.isDigit (fraction.take 9) := fun c member =>
    made c (List.mem_of_mem_take member)
  have small := digitsValue_lt front
  have short := List.length_take_le 9 fraction
  calc nanosOf fraction
      < 10 ^ (fraction.take 9).length * 10 ^ (9 - (fraction.take 9).length) :=
        Nat.mul_lt_mul_of_pos_right small (Nat.pow_pos (by decide))
    _ = 10 ^ 9 := by rw [← Nat.pow_add, Nat.add_sub_cancel' short]

/-! ## Moments in universal time -/

theorem readFraction?_point (text : List Char) : readFraction? ('.' :: text) =
    if (text.takeWhile Char.isDigit).isEmpty then none
    else some (nanosOf (text.takeWhile Char.isDigit), text.dropWhile Char.isDigit) := rfl

/-- What follows the seconds is read if the fraction has digits of ASCII. -/
theorem bind_readFraction?_eq_some_iff {α : Type} {fraction : List Char}
    {next : Nat → Int → Option α} {a : α} :
    ((readFraction? (pointed fraction ++ ['Z'])).bind fun found =>
        (readOffset? found.2).bind fun offset => next found.1 offset) = some a ↔
      MadeOf Char.isDigit fraction ∧ next (nanosOf fraction) 0 = some a := by
  have stops : Stops Char.isDigit ['Z'] := stops_cons rfl []
  by_cases empty : fraction = []
  · subst empty
    exact ⟨fun read => ⟨List.forall_mem_nil _, read⟩, fun read => read.2⟩
  rw [pointed, if_neg empty, List.cons_append, readFraction?_point]
  constructor
  · intro read
    obtain ⟨found, places, read⟩ := Option.bind_eq_some_iff.mp read
    obtain ⟨offset, zone, read⟩ := Option.bind_eq_some_iff.mp read
    split at places
    · cases places
    · cases places
      have left := eq_zone_of_readOffset? zone
        ((Passes.dropWhile rfl _).mem_rest (List.mem_append_right _ List.mem_cons_self))
      have made : MadeOf Char.isDigit fraction := by
        rw [dropWhile_stop stops] at left
        exact List.dropWhile_eq_nil_iff.mp (List.append_cancel_right left)
      rw [left] at zone
      obtain rfl := Option.some.inj zone
      rw [takeWhile_run stops made] at read
      exact ⟨made, read⟩
  · rintro ⟨made, read⟩
    rw [takeWhile_run stops made, dropWhile_run stops made, if_neg (by simpa using empty)]
    exact read

variable {date : DateDigits}

theorem readInternet?_moment (dateMade : date.Made isDecimal) {time : TimeDigits}
    (timeMade : time.Made isDecimal) {fraction : List Char} {moment : Timestamp} :
    readInternet? (momentText date time fraction) = some moment ↔
      date.Made Char.isDigit ∧ time.Made Char.isDigit ∧ MadeOf Char.isDigit fraction ∧
        (time.clock (nanosOf fraction)).on? date.civil 0 = some moment := by
  have mark : isDateTimeMark 'T' = true := rfl
  obtain ⟨⟨years, -⟩, ⟨months, -⟩, ⟨days, -⟩⟩ := dateMade
  obtain ⟨⟨hours, -⟩, ⟨minutes, -⟩, ⟨seconds, -⟩⟩ := timeMade
  simp only [readInternet?, momentText, DateDigits.text, TimeDigits.text, Option.bind_eq_bind,
    bind_cutNumber?_eq_some_iff years, bind_cutNumber?_eq_some_iff months,
    bind_cutNumber?_eq_some_iff days, bind_cutNumber?_eq_some_iff hours,
    bind_cutNumber?_eq_some_iff minutes, bind_cutNumber?_eq_some_iff seconds, cutChar?_self,
    Option.bind_some, mark, if_true]
  rw [@bind_readFraction?_eq_some_iff _ _ fun nanos => TimeOfDay.on? _ _]
  constructor
  · rintro ⟨year, month, day, hour, minute, second, places, read⟩
    exact ⟨⟨⟨years, year⟩, ⟨months, month⟩, ⟨days, day⟩⟩,
      ⟨⟨hours, hour⟩, ⟨minutes, minute⟩, ⟨seconds, second⟩⟩, places, read⟩
  · rintro ⟨⟨year, month, day⟩, ⟨hour, minute, second⟩, places, read⟩
    exact ⟨year.made, month.made, day.made, hour.made, minute.made, second.made, places, read⟩

/-! ## Days alone -/

theorem trimLeft_figures {count : Nat} {digits : List Char}
    (figures : Figures isDecimal (count + 1) digits) (rest : List Char) :
    trimLeft (digits ++ rest) = digits ++ rest := by
  obtain ⟨first, others, rfl, decimal⟩ := figures.exists_cons
  exact trimLeft_cons (not_blank_of_isDecimal decimal) _

theorem readField?_digits {count : Nat} {digits : List Char}
    (figures : Figures Char.isDigit (count + 1) digits) (rest : List Char) :
    readField? (count + 1) (digits ++ rest) = some (digitsValue digits, rest) := by
  obtain ⟨first, others, begins, -⟩ := figures.exists_cons
  have cut := cutDigits_run figures.made rest
  rw [figures.length] at cut
  unfold readField?
  rw [trimLeft_figures (figures.mono fun c => isDecimal_of_isDigit), cut]
  simp [begins]

/-- A field that stops in front of no digit of any script has been digits of ASCII. -/
theorem readField?_eq_some {count n : Nat} {digits rest found : List Char}
    (figures : Figures isDecimal (count + 1) digits)
    (read : readField? (count + 1) (digits ++ rest) = some (n, found))
    (ends : Stops isDecimal found) : Figures Char.isDigit (count + 1) digits ∧ found = rest := by
  unfold readField? at read
  rw [trimLeft_figures figures] at read
  dsimp only at read
  split at read
  · cases read
  · cases read
    have split := cutDigits_append (count + 1) (digits ++ rest)
    rw [← figures.length] at split ends ⊢
    by_cases made : MadeOf Char.isDigit digits
    · exact ⟨⟨rfl, made⟩, by rw [cutDigits_run made]⟩
    · have short := length_cutDigits_lt made rest
      rcases List.append_eq_append_iff.mp split with ⟨left, digits', found⟩ | ⟨more, front, -⟩
      · cases left with
        | nil =>
            have size := congrArg List.length digits'
            rw [List.append_nil] at size
            omega
        | cons c others =>
            rw [found] at ends
            have decimal := figures.made c (by rw [digits']; simp)
            rw [ends c rfl] at decimal
            cases decimal
      · rw [front, List.length_append] at short
        omega

theorem readYear?_figures {year : List Char} (figures : Figures isDecimal 4 year)
    (rest : List Char) :
    readYear? (year ++ rest) =
      (readField? 4 (year ++ rest)).map fun found => ((found.1 : Int), found.2) := by
  obtain ⟨first, others, begins, decimal⟩ := figures.exists_cons
  unfold readYear?
  rw [trimLeft_figures figures, begins, List.cons_append]
  split
  · rename_i same
    cases same
    exact absurd rfl (ne_of_isDecimal decimal (by decide))
  · rename_i same
    cases same
    exact absurd rfl (ne_of_isDecimal decimal (by decide))
  · rfl

/-- A date is read from digits of ASCII, and from no others. -/
theorem readCivil?_text_iff (made : date.Made isDecimal) {civil : Civil} :
    readCivil? (date.text []) = some (civil, []) ↔
      date.Made Char.isDigit ∧ civil = date.civil := by
  have mark : isDecimal '-' = false := not_isDecimal_of_separator (by decide)
  constructor
  · intro read
    obtain ⟨⟨year, r₁⟩, years, read⟩ := Option.bind_eq_some_iff.mp read
    obtain ⟨r₂, front, read⟩ := Option.bind_eq_some_iff.mp read
    obtain ⟨⟨month, r₃⟩, months, read⟩ := Option.bind_eq_some_iff.mp read
    obtain ⟨r₄, back, read⟩ := Option.bind_eq_some_iff.mp read
    obtain ⟨⟨day, r₅⟩, days, same⟩ := Option.bind_eq_some_iff.mp read
    cases same
    obtain rfl := cutChar?_eq_some_iff.mp front
    obtain rfl := cutChar?_eq_some_iff.mp back
    rw [DateDigits.text, readYear?_figures made.year] at years
    obtain ⟨⟨n, found⟩, field, same⟩ := Option.map_eq_some_iff.mp years
    cases same
    obtain ⟨yearDigits, same⟩ := readField?_eq_some made.year field (stops_cons mark r₂)
    cases same
    rw [readField?_digits yearDigits] at field
    cases field
    obtain ⟨monthDigits, same⟩ := readField?_eq_some made.month months (stops_cons mark r₄)
    cases same
    rw [readField?_digits monthDigits] at months
    cases months
    obtain ⟨dayDigits, -⟩ := readField?_eq_some made.day days stops_nil
    rw [readField?_digits dayDigits] at days
    cases days
    exact ⟨⟨yearDigits, monthDigits, dayDigits⟩, rfl⟩
  · rintro ⟨digits, rfl⟩
    have years : readYear? (date.text []) =
        some ((digitsValue date.year : Int), '-' :: (date.month ++ '-' :: (date.day ++ []))) := by
      rw [DateDigits.text, readYear?_figures made.year, readField?_digits digits.year]
      rfl
    exact readCivil?_of_parts years (readField?_digits digits.month _)
      (readField?_digits digits.day _)

/-- A text in the shape of a date is read as a date alone if its digits are of ASCII and give a day
of the calendar. -/
theorem isSome_readDate?_iff (made : date.Made isDecimal) :
    (readDate? (date.text [])).isSome = true ↔
      date.Made Char.isDigit ∧ date.civil.isValid = true := by
  constructor
  · intro read
    obtain ⟨moment, read⟩ := Option.isSome_iff_exists.mp read
    obtain ⟨⟨civil, rest⟩, civils, read⟩ := Option.bind_eq_some_iff.mp read
    dsimp only at read
    split at read
    · rename_i empty
      obtain rfl : rest = [] := List.isEmpty_iff.mp empty
      obtain ⟨digits, rfl⟩ := (readCivil?_text_iff made).mp civils
      obtain ⟨day, days, -⟩ := Option.map_eq_some_iff.mp read
      exact ⟨digits, (isSome_ofCivil? digits.inFourDigits).mp (Option.isSome_of_eq_some days)⟩
    · cases read
  · rintro ⟨digits, valid⟩
    obtain ⟨day, days⟩ :=
      Option.isSome_iff_exists.mp ((isSome_ofCivil? digits.inFourDigits).mpr valid)
    have read := (readCivil?_text_iff made).mpr ⟨digits, rfl⟩
    simp [readDate?, read, days]

theorem readInternet?_text_nil (made : date.Made isDecimal) :
    readInternet? (date.text []) = none := by
  obtain ⟨⟨years, -⟩, ⟨months, -⟩, ⟨days, -⟩⟩ := made
  refine Option.eq_none_iff_forall_ne_some.mpr fun moment read => ?_
  simp only [readInternet?, DateDigits.text, Option.bind_eq_bind,
    bind_cutNumber?_eq_some_iff years, bind_cutNumber?_eq_some_iff months,
    bind_cutNumber?_eq_some_iff days, cutChar?_self, Option.bind_some, Option.bind_none] at read
  cases read.2.2.2

/-! ## All forms -/

theorem passes_gap (text rest : List Char) (gap : some (trimLeft text) = some rest) :
    Passes text rest := by
  cases gap
  exact Passes.trimLeft text

theorem passes_mark (text rest : List Char) (mark : cutChar? 'T' text = some rest) :
    Passes text rest := Passes.of_cutChar? (by decide) mark

theorem trim_text (made : date.Made isDecimal) {rest front : List Char} {last : Char}
    (closes : date.text rest = front ++ [last]) (solid : isBlank last = false) :
    trim (date.text rest) = date.text rest := by
  obtain ⟨first, others, begins, decimal⟩ := made.year.exists_cons
  have starts : date.text rest =
      first :: (others ++ '-' :: (date.month ++ '-' :: (date.day ++ rest))) := by
    rw [DateDigits.text, begins]
    rfl
  exact trim_of_ends starts closes (not_blank_of_isDecimal decimal) solid

/-- A text in the shape of a moment can only be read in the internet form. -/
theorem read?_momentText (made : date.Made isDecimal) (time : TimeDigits) (fraction : List Char) :
    Timestamp.read? (momentText date time fraction) =
      readInternet? (momentText date time fraction) := by
  have closes : momentText date time fraction =
      date.text ('T' :: time.text (pointed fraction)) ++ ['Z'] := by
    simp [momentText, DateDigits.text, TimeDigits.text]
  have trimmed : trim (momentText date time fraction) = momentText date time fraction :=
    trim_text made closes rfl
  have zone : 'Z' ∈ momentText date time fraction := by
    rw [closes]
    exact List.mem_append_right _ List.mem_cons_self
  unfold Timestamp.read?
  rw [trimmed]
  generalize momentText date time fraction = text at zone
  have late : readDateTime? (fun rest => some (trimLeft rest)) text = none :=
    Option.eq_none_iff_forall_ne_some.mpr fun _ read =>
      (marks_of_readDateTime? passes_gap read).2 zone
  have marked : readDateTime? (cutChar? 'T') text = none :=
    Option.eq_none_iff_forall_ne_some.mpr fun _ read =>
      (marks_of_readDateTime? passes_mark read).2 zone
  have alone : readDate? text = none :=
    Option.eq_none_iff_forall_ne_some.mpr fun _ read => zone_of_readDate? read zone
  simp only [late, marked, alone]
  cases readInternet? text <;> rfl

/-- A text in the shape of a date can only be read as a date alone. -/
theorem read?_dateText (made : date.Made isDecimal) :
    Timestamp.read? (date.text []) = readDate? (date.text []) := by
  obtain ⟨first, others, begins, -⟩ := made.day.exists_cons
  have filled : date.day ≠ [] := begins ▸ List.cons_ne_nil _ _
  have closes : date.text [] =
      date.year ++ '-' :: (date.month ++ '-' :: date.day.dropLast) ++ [date.day.getLast filled] := by
    simp [DateDigits.text, List.dropLast_concat_getLast filled]
  have solid := not_blank_of_isDecimal (made.day.made _ (List.getLast_mem filled))
  have colon : ':' ∉ date.text [] := by
    have other {digits : List Char} (decimals : MadeOf isDecimal digits) : ':' ∉ digits :=
      fun member => ne_of_isDecimal (decimals _ member) (by decide) rfl
    simp [DateDigits.text, other made.year.made, other made.month.made, other made.day.made]
  unfold Timestamp.read?
  rw [trim_text made closes solid]
  dsimp only
  rw [readInternet?_text_nil made]
  generalize date.text [] = text at colon
  have late : readDateTime? (fun rest => some (trimLeft rest)) text = none :=
    Option.eq_none_iff_forall_ne_some.mpr fun _ read =>
      colon (marks_of_readDateTime? passes_gap read).1
  have marked : readDateTime? (cutChar? 'T') text = none :=
    Option.eq_none_iff_forall_ne_some.mpr fun _ read =>
      colon (marks_of_readDateTime? passes_mark read).1
  simp only [late, marked]
  rfl

end Calendar

open Calendar

theorem isSome_read?_of_namesMoment {text : List Char} (named : NamesMoment text) :
    (Timestamp.read? text).isSome = true := by
  cases named with
  | @intro date time fraction dateDigits timeDigits fractionDigits valid inDay =>
      have dateMade := dateDigits.mono fun c => isDecimal_of_isDigit
      have timeMade := timeDigits.mono fun c => isDecimal_of_isDigit
      have small : (time.clock (nanosOf fraction)).nanos < 10 ^ 9 := nanosOf_lt fractionDigits
      obtain ⟨moment, on⟩ := Option.isSome_iff_exists.mp
        ((isSome_on? dateDigits.inFourDigits small).mpr ⟨valid, inDay⟩)
      rw [read?_momentText dateMade, Option.isSome_iff_exists]
      exact ⟨moment, (readInternet?_moment dateMade timeMade).mpr
        ⟨dateDigits, timeDigits, fractionDigits, on⟩⟩

theorem isSome_read?_of_namesDay {text : List Char} (named : NamesDay text) :
    (Timestamp.read? text).isSome = true := by
  cases named with
  | intro digits valid =>
      have made := digits.mono fun c => isDecimal_of_isDigit
      rw [read?_dateText made]
      exact (isSome_readDate?_iff made).mpr ⟨digits, valid⟩

/-- Of the texts in the shape of a moment those are read that name one. -/
theorem isSome_read?_iff_namesMoment {text : List Char} (shape : isDateTimeText text = true) :
    (Timestamp.read? text).isSome = true ↔ NamesMoment text := by
  refine ⟨fun read => ?_, isSome_read?_of_namesMoment⟩
  obtain ⟨date, time, fraction, dateMade, timeMade, -, rfl⟩ := isDateTimeText_iff.mp shape
  rw [read?_momentText dateMade, Option.isSome_iff_exists] at read
  obtain ⟨moment, read⟩ := read
  obtain ⟨dateDigits, timeDigits, fractionDigits, on⟩ :=
    (readInternet?_moment dateMade timeMade).mp read
  have small : (time.clock (nanosOf fraction)).nanos < 10 ^ 9 := nanosOf_lt fractionDigits
  obtain ⟨valid, inDay⟩ := (isSome_on? dateDigits.inFourDigits small).mp
    (Option.isSome_of_eq_some on)
  exact .intro dateDigits timeDigits fractionDigits valid inDay

/-- Of the texts in the shape of a date those are read that name a day. -/
theorem isSome_read?_iff_namesDay {text : List Char} (shape : isDateText text = true) :
    (Timestamp.read? text).isSome = true ↔ NamesDay text := by
  refine ⟨fun read => ?_, isSome_read?_of_namesDay⟩
  obtain ⟨date, made, rfl⟩ := isDateText_iff.mp shape
  rw [read?_dateText made, isSome_readDate?_iff made] at read
  exact .intro read.1 read.2

end RelationQuery
