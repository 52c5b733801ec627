import RelationQuery.Proofs.DecimalText
import RelationQuery.Calendar.Read
import RelationQuery.Rule.Validate

/-!
# The shapes of dates and times

A rule takes a text for a day, a time or a moment by its shape: runs of decimal digits, of any
script, with marks between them.
-/

namespace RelationQuery

open Text
open Sql (MadeOf)

structure DateDigits where
  year : List Char
  month : List Char
  day : List Char

structure TimeDigits where
  hour : List Char
  minute : List Char
  second : List Char

/-- A number of characters that pass a test. -/
structure Figures (test : Char → Bool) (count : Nat) (text : List Char) : Prop where
  length : text.length = count
  made : MadeOf test text

namespace DateDigits

def text (date : DateDigits) (rest : List Char) : List Char :=
  date.year ++ '-' :: (date.month ++ '-' :: (date.day ++ rest))

def civil (date : DateDigits) : Civil :=
  ⟨digitsValue date.year, digitsValue date.month, digitsValue date.day⟩

structure Made (test : Char → Bool) (date : DateDigits) : Prop where
  year : Figures test 4 date.year
  month : Figures test 2 date.month
  day : Figures test 2 date.day

end DateDigits

namespace TimeDigits

def text (time : TimeDigits) (rest : List Char) : List Char :=
  time.hour ++ ':' :: (time.minute ++ ':' :: (time.second ++ rest))

def clock (time : TimeDigits) (nanos : Nat) : TimeOfDay :=
  ⟨digitsValue time.hour, digitsValue time.minute, digitsValue time.second, nanos⟩

structure Made (test : Char → Bool) (time : TimeDigits) : Prop where
  hour : Figures test 2 time.hour
  minute : Figures test 2 time.minute
  second : Figures test 2 time.second

end TimeDigits

/-- A point before the digits of a fraction, if there are any. -/
def pointed (fraction : List Char) : List Char :=
  if fraction = [] then [] else '.' :: fraction

def momentText (date : DateDigits) (time : TimeDigits) (fraction : List Char) : List Char :=
  date.text ('T' :: time.text (pointed fraction ++ ['Z']))

/-! ## Digits of any script -/

section

variable {test other : Char → Bool} (weaker : ∀ c, test c = true → other c = true)

include weaker

theorem Figures.mono {count : Nat} {text : List Char} (figures : Figures test count text) :
    Figures other count text :=
  ⟨figures.length, fun c member => weaker c (figures.made c member)⟩

theorem DateDigits.Made.mono {date : DateDigits} (made : date.Made test) : date.Made other :=
  ⟨made.year.mono weaker, made.month.mono weaker, made.day.mono weaker⟩

theorem TimeDigits.Made.mono {time : TimeDigits} (made : time.Made test) : time.Made other :=
  ⟨made.hour.mono weaker, made.minute.mono weaker, made.second.mono weaker⟩

end

/-- A run of digits that is not empty begins with one. -/
theorem Figures.exists_cons {test : Char → Bool} {count : Nat} {text : List Char}
    (figures : Figures test (count + 1) text) :
    ∃ first others, text = first :: others ∧ test first = true := by
  obtain ⟨first, others, rfl⟩ := List.exists_cons_of_length_eq_add_one figures.length
  exact ⟨first, others, rfl, figures.made first List.mem_cons_self⟩

theorem Figures.cutDecimals? {count : Nat} {digits : List Char}
    (figures : Figures isDecimal count digits) (rest : List Char) :
    cutDecimals? count (digits ++ rest) = some rest := by
  obtain ⟨rfl, made⟩ := figures
  unfold RelationQuery.cutDecimals?
  rw [List.take_left, List.drop_left]
  exact if_pos ⟨rfl, List.all_eq_true.mpr made⟩

/-- As many decimal digits as wanted are cut off from what begins with them. -/
theorem cutDecimals?_eq_some_iff {count : Nat} {text rest : List Char} :
    cutDecimals? count text = some rest ↔
      ∃ digits, Figures isDecimal count digits ∧ text = digits ++ rest := by
  constructor
  · intro cut
    unfold cutDecimals? at cut
    split at cut
    · rename_i digits
      cases cut
      exact ⟨text.take count, ⟨digits.1, List.all_eq_true.mp digits.2⟩,
        (List.take_append_drop count text).symm⟩
    · cases cut
  · rintro ⟨digits, figures, rfl⟩
    exact figures.cutDecimals? rest

/-- Three numbers with marks between them are cut off from what begins with them. -/
theorem cutFigures_eq_some_iff {count : Nat} {mark : Char} {text rest : List Char} :
    (do
      let rest ← cutChar? mark (← cutDecimals? count text)
      let rest ← cutChar? mark (← cutDecimals? 2 rest)
      cutDecimals? 2 rest) = some rest ↔
      ∃ first second third, Figures isDecimal count first ∧ Figures isDecimal 2 second ∧
        Figures isDecimal 2 third ∧
          text = first ++ mark :: (second ++ mark :: (third ++ rest)) := by
  constructor
  · intro cut
    obtain ⟨r₁, firsts, cut⟩ := Option.bind_eq_some_iff.mp cut
    obtain ⟨r₂, front, cut⟩ := Option.bind_eq_some_iff.mp cut
    obtain ⟨r₃, seconds, cut⟩ := Option.bind_eq_some_iff.mp cut
    obtain ⟨r₄, back, thirds⟩ := Option.bind_eq_some_iff.mp cut
    obtain ⟨first, firstMade, rfl⟩ := cutDecimals?_eq_some_iff.mp firsts
    obtain rfl := cutChar?_eq_some_iff.mp front
    obtain ⟨second, secondMade, rfl⟩ := cutDecimals?_eq_some_iff.mp seconds
    obtain rfl := cutChar?_eq_some_iff.mp back
    obtain ⟨third, thirdMade, rfl⟩ := cutDecimals?_eq_some_iff.mp thirds
    exact ⟨first, second, third, firstMade, secondMade, thirdMade, rfl⟩
  · rintro ⟨first, second, third, firstMade, secondMade, thirdMade, rfl⟩
    simp only [Option.bind_eq_bind, firstMade.cutDecimals?, secondMade.cutDecimals?,
      thirdMade.cutDecimals?, cutChar?_self, Option.bind_some]

theorem cutDateText?_eq_some_iff {text rest : List Char} :
    cutDateText? text = some rest ↔
      ∃ date : DateDigits, date.Made isDecimal ∧ text = date.text rest := by
  rw [cutDateText?, cutFigures_eq_some_iff]
  constructor
  · rintro ⟨year, month, day, yearMade, monthMade, dayMade, rfl⟩
    exact ⟨⟨year, month, day⟩, ⟨yearMade, monthMade, dayMade⟩, rfl⟩
  · rintro ⟨date, made, rfl⟩
    exact ⟨_, _, _, made.year, made.month, made.day, rfl⟩

theorem cutTimeText?_eq_some_iff {text rest : List Char} :
    cutTimeText? text = some rest ↔
      ∃ time : TimeDigits, time.Made isDecimal ∧ text = time.text rest := by
  rw [cutTimeText?, cutFigures_eq_some_iff]
  constructor
  · rintro ⟨hour, minute, second, hourMade, minuteMade, secondMade, rfl⟩
    exact ⟨⟨hour, minute, second⟩, ⟨hourMade, minuteMade, secondMade⟩, rfl⟩
  · rintro ⟨time, made, rfl⟩
    exact ⟨_, _, _, made.hour, made.minute, made.second, rfl⟩

theorem isFraction_iff {text : List Char} : isFraction text = true ↔
    ∃ digits, digits ≠ [] ∧ MadeOf isDecimal digits ∧ text = '.' :: digits := by
  constructor
  · intro fraction
    unfold isFraction at fraction
    split at fraction
    · rename_i digits
      rw [Bool.and_eq_true] at fraction
      exact ⟨digits, by simpa using fraction.1, List.all_eq_true.mp fraction.2, rfl⟩
    · cases fraction
  · rintro ⟨digits, filled, made, rfl⟩
    simp [isFraction, filled, List.all_eq_true.mpr made]

theorem isMomentEnd_iff {text : List Char} : isMomentEnd text = true ↔
    ∃ fraction, MadeOf isDecimal fraction ∧ text = pointed fraction ++ ['Z'] := by
  unfold isMomentEnd
  rw [Bool.or_eq_true, Bool.and_eq_true, beq_iff_eq, beq_iff_eq]
  constructor
  · rintro (rfl | ⟨last, fraction⟩)
    · exact ⟨[], List.forall_mem_nil _, rfl⟩
    · obtain ⟨front, rfl⟩ := List.getLast?_eq_some_iff.mp last
      rw [List.dropLast_concat] at fraction
      obtain ⟨digits, filled, made, rfl⟩ := isFraction_iff.mp fraction
      exact ⟨digits, made, by rw [pointed, if_neg filled]⟩
  · rintro ⟨fraction, made, rfl⟩
    by_cases empty : fraction = []
    · subst empty
      exact .inl rfl
    · refine .inr ⟨List.getLast?_concat, ?_⟩
      rw [List.dropLast_concat, pointed, if_neg empty]
      exact isFraction_iff.mpr ⟨fraction, empty, made, rfl⟩

/-- The shape of a day. -/
theorem isDateText_iff {text : List Char} : isDateText text = true ↔
    ∃ date : DateDigits, date.Made isDecimal ∧ text = date.text [] := by
  rw [isDateText, beq_iff_eq, cutDateText?_eq_some_iff]

/-- The shape of a moment. -/
theorem isDateTimeText_iff {text : List Char} : isDateTimeText text = true ↔
    ∃ (date : DateDigits) (time : TimeDigits) (fraction : List Char),
      date.Made isDecimal ∧ time.Made isDecimal ∧ MadeOf isDecimal fraction ∧
        text = momentText date time fraction := by
  unfold isDateTimeText
  rw [Option.any_eq_true]
  constructor
  · rintro ⟨rest, cut, ends⟩
    obtain ⟨r₁, dates, cut⟩ := Option.bind_eq_some_iff.mp cut
    obtain ⟨r₂, mark, times⟩ := Option.bind_eq_some_iff.mp cut
    obtain ⟨date, dateMade, rfl⟩ := cutDateText?_eq_some_iff.mp dates
    obtain rfl := cutChar?_eq_some_iff.mp mark
    obtain ⟨time, timeMade, rfl⟩ := cutTimeText?_eq_some_iff.mp times
    obtain ⟨fraction, fractionMade, rfl⟩ := isMomentEnd_iff.mp ends
    exact ⟨date, time, fraction, dateMade, timeMade, fractionMade, rfl⟩
  · rintro ⟨date, time, fraction, dateMade, timeMade, fractionMade, rfl⟩
    refine ⟨_, ?_, isMomentEnd_iff.mpr ⟨fraction, fractionMade, rfl⟩⟩
    rw [momentText, cutDateText?_eq_some_iff.mpr ⟨date, dateMade, rfl⟩]
    exact cutTimeText?_eq_some_iff.mpr ⟨time, timeMade, rfl⟩

end RelationQuery
