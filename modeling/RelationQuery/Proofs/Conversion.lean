import RelationQuery.Proofs.BoundValues
import RelationQuery.Proofs.NamedMoments
import RelationQuery.Proofs.UuidText
import RelationQuery.Rule.Convert

/-!
# Conversion and validation

A value is converted if it is valid, and not only then refused: a text in the shape of a moment or a
day has to name one of the calendar. What comes out has the type of the rule, and is null where no
value came in.
-/

namespace RelationQuery

open Text
open Sql (MadeOf)

/-- Whether a text given for a moment or a day names one. -/
def RuleKind.Names : RuleKind → Json → Prop
  | .dateTime, .string s => NamesMoment s.toList
  | .date, .string s => NamesMoment s.toList ∨ NamesDay s.toList
  | _, _ => True

inductive Converted : RuleKind → Json → Value → Prop where
  | string (given : Json) (text : String) : Converted .string given (.text text)
  | whole (given : Json) (n : Int64) : Converted .number given (.int64 n)
  | fractional (given : Json) (x : Double) : Converted .number given (.float64 x)
  | boolean (given : Json) (b : Bool) : Converted .boolean given (.bool b)
  | dateTime (given : Json) (moment : Timestamp) : Converted .dateTime given (.timestamp moment)
  | date (given : Json) (day : Date) : Converted .date given (.date day)
  | time (text : String) : Converted .time (.string text) (.text text)
  | id (given : Json) (id : Uuid) : Converted .id given (.uuid id)

theorem Converted.ne_null {kind : RuleKind} {given : Json} {value : Value}
    (converted : Converted kind given value) : value ≠ .null := by
  rintro rfl
  cases converted

/-! ## Values that are there -/

theorem present?_eq_none_iff {value : Option Json} :
    present? value = none ↔ value = none ∨ value = some .null ∨ value = some (.string "") := by
  unfold present?
  split
  · simp
  · simp
  · rename_i s
    by_cases empty : s = ""
    · simp [empty]
    · simp [empty]
  · simp_all

theorem eq_of_present? {value : Option Json} {given : Json}
    (present : present? value = some given) : value = some given := by
  unfold present? at present
  split at present
  · cases present
  · cases present
  · split at present
    · cases present
    · cases present
      rfl
  · exact present

/-! ## Numbers -/

theorem solid_of_unsigned {text : List Char}
    (ends : ((afterDecimals text).isEmpty || isFraction (afterDecimals text)) = true) :
    MadeOf (fun c => !isBlank c) text := by
  have split : text.takeWhile isDecimal ++ afterDecimals text = text :=
    List.takeWhile_append_dropWhile
  have front : MadeOf isDecimal (text.takeWhile isDecimal) := fun c member =>
    List.all_eq_true.mp List.all_takeWhile c member
  rw [← split]
  refine List.forall_mem_append.mpr ⟨solid_of_isDecimal front, ?_⟩
  rw [Bool.or_eq_true, List.isEmpty_iff] at ends
  rcases ends with empty | fraction
  · rw [empty]
    exact List.forall_mem_nil _
  · obtain ⟨digits, -, made, begins⟩ := isFraction_iff.mp fraction
    rw [begins]
    exact List.forall_mem_cons.mpr ⟨rfl, solid_of_isDecimal made⟩

/-- A numeral has no blanks that trimming could take away. -/
theorem solid_of_isNumeralText {text : List Char} (numeral : isNumeralText text = true) :
    MadeOf (fun c => !isBlank c) text := by
  unfold isNumeralText at numeral
  dsimp only at numeral
  split at numeral
  · exact List.forall_mem_cons.mpr ⟨rfl, solid_of_unsigned numeral⟩
  · exact solid_of_unsigned numeral

namespace Rule

variable {rule : Rule} {given : Json}

theorem converted_number (valid : rule.validateNumber given = .ok ()) :
    ∃ value, rule.convertNumber given = .ok value ∧ Converted .number given value := by
  obtain ⟨x, number, -⟩ := bind_eq_ok.mp valid
  unfold numberOf at number
  split at number
  · rename_i n
    refine ⟨_, rfl, ?_⟩
    rw [Value.ofJson]
    split
    · exact .whole _ _
    · exact .fractional _ _
  · rename_i s
    dsimp only at number
    split at number
    · rename_i numeral
      cases read : Binary.read .double s.toList with
      | error refused =>
          rw [read] at number
          cases number
      | ok x =>
          have trimmed := trim_of_solid (solid_of_isNumeralText numeral)
          simp only [convertNumber, trimmed, read]
          split
          · exact ⟨_, rfl, .whole _ _⟩
          · exact ⟨_, rfl, .fractional _ _⟩
    · cases number
  · cases number

/-! ## Moments, days and identifiers -/

theorem require_eq_ok {holds : Bool} {violation : Violation}
    (passed : require holds violation = .ok ()) : holds = true := by
  unfold require at passed
  split at passed
  · assumption
  · cases passed

/-- A valid moment, or day where that will do, is a text in its shape. -/
theorem exists_of_validateDate {dateAlone : Bool}
    (valid : rule.validateDate given dateAlone = .ok ()) : ∃ s, given = .string s ∧
      (isDateTimeText s.toList = true ∨ dateAlone = true ∧ isDateText s.toList = true) := by
  have holds := require_eq_ok valid
  split at holds
  · rename_i s
    exact ⟨s, rfl, by simpa using holds⟩
  · cases holds

theorem convertMoment_string (s : String) (moment : Timestamp) :
    rule.convertMoment (.string s) = .ok moment ↔ Timestamp.read? s.toList = some moment := by
  unfold convertMoment
  dsimp only
  cases Timestamp.read? s.toList with
  | none => exact ⟨fun converted => (nomatch converted), fun read => (nomatch read)⟩
  | some found => rw [Except.ok.injEq, Option.some.injEq]

theorem exists_convertMoment_iff (s : String) :
    (∃ moment, rule.convertMoment (.string s) = .ok moment) ↔
      (Timestamp.read? s.toList).isSome = true := by
  rw [Option.isSome_iff_exists]
  exact exists_congr fun moment => convertMoment_string s moment

theorem converted_id (valid : rule.validateId given = .ok ()) :
    ∃ id, rule.convertId given = .ok id := by
  unfold validateId at valid
  split at valid
  · rename_i s
    obtain ⟨⟨found, rest⟩, cut, ends⟩ :=
      (Option.any_eq_true _ _).mp (require_eq_ok valid)
    obtain rfl : rest = [] := List.isEmpty_iff.mp ends
    obtain ⟨id, read⟩ := Uuid.exists_read? cut
    exact ⟨id, by simp only [convertId, read]⟩
  · cases valid

end Rule

/-! ## All kinds -/

structure PresentOutcome (outcome : Except Violation Value) (kind : RuleKind) (given : Json) : Prop where
  isOk : (∃ value, outcome = .ok value) ↔ kind.Names given
  typed : ∀ value, outcome = .ok value → Converted kind given value

namespace PresentOutcome

variable {kind : RuleKind} {given : Json}

theorem ok {value : Value} (converted : Converted kind given value) (named : kind.Names given) :
    PresentOutcome (.ok value) kind given := by
  refine ⟨⟨fun _ => named, fun _ => ⟨value, rfl⟩⟩, fun found same => ?_⟩
  cases same
  exact converted

theorem map {α : Type} {outcome : Except Violation α} {form : α → Value}
    (isOk : (∃ a, outcome = .ok a) ↔ kind.Names given) (typed : ∀ a, Converted kind given (form a)) :
    PresentOutcome (outcome.map form) kind given := by
  cases outcome with
  | ok a => exact ok (typed a) (isOk.mp ⟨a, rfl⟩)
  | error refused =>
      refine ⟨⟨fun ⟨_, same⟩ => (nomatch same), fun named => ?_⟩, fun _ same => (nomatch same)⟩
      obtain ⟨a, same⟩ := isOk.mpr named
      cases same

end PresentOutcome

namespace Rule

variable {rule : Rule} {given : Json}

/-- A valid value that is there is converted to the type of the rule, if it names what it has to. -/
theorem presentOutcome_of_valid (valid : rule.validatePresent given = .ok ()) :
    PresentOutcome (rule.convertPresent given) rule.kind given := by
  unfold validatePresent at valid
  unfold convertPresent
  cases kind : rule.kind with
  | string => exact .ok (.string given _) trivial
  | number =>
      rw [kind] at valid
      obtain ⟨value, converted, result⟩ := converted_number valid
      dsimp only
      rw [converted]
      exact .ok result trivial
  | boolean => exact .ok (.boolean given _) trivial
  | dateTime =>
      rw [kind] at valid
      obtain ⟨s, rfl, shape⟩ := exists_of_validateDate valid
      have moment : isDateTimeText s.toList = true := by simpa using shape
      exact .map ((exists_convertMoment_iff s).trans (isSome_read?_iff_namesMoment moment))
        (.dateTime _)
  | date =>
      rw [kind] at valid
      obtain ⟨s, rfl, shape⟩ := exists_of_validateDate valid
      refine .map ((exists_convertMoment_iff s).trans ⟨fun read => ?_, fun named => ?_⟩)
        (fun moment => .date _ moment.date)
      · rcases shape with moment | ⟨-, day⟩
        · exact .inl ((isSome_read?_iff_namesMoment moment).mp read)
        · exact .inr ((isSome_read?_iff_namesDay day).mp read)
      · exact named.elim isSome_read?_of_namesMoment isSome_read?_of_namesDay
  | time =>
      rw [kind] at valid
      dsimp only at valid
      unfold validateTime at valid
      split at valid
      · exact .ok (.time _) trivial
      · cases valid
  | id =>
      rw [kind] at valid
      exact .map ⟨fun _ => trivial, fun _ => converted_id valid⟩ (.id given)

theorem convert_of_valid {value : Option Json} (valid : rule.validate value = .ok ())
    (present : present? value = some given) : rule.convert value = rule.convertPresent given := by
  unfold convert
  rw [valid, present]
  rfl

/-- When a value is converted, and to what. It is converted if and only if it is valid and, for a
moment or a day, a text that is there names one of the calendar in digits of ASCII. The result is
null exactly where no value came in, and otherwise has the type of the rule. -/
theorem converted_iff_valid_and_named (rule : Rule) (value : Option Json) :
    ((∃ result, rule.convert value = .ok result) ↔
      rule.validate value = .ok () ∧
        ∀ given, present? value = some given → rule.kind.Names given) ∧
    ∀ result, rule.convert value = .ok result →
      (result = .null ↔ value = none ∨ value = some .null ∨ value = some (.string "")) ∧
      ∀ given, value = some given → result ≠ .null → Converted rule.kind given result := by
  rw [← present?_eq_none_iff]
  cases valid : rule.validate value with
  | error refused =>
      unfold convert
      rw [valid]
      exact ⟨⟨fun ⟨_, same⟩ => (nomatch same), fun ⟨same, _⟩ => (nomatch same)⟩,
        fun _ same => (nomatch same)⟩
  | ok =>
      cases present : present? value with
      | none =>
          unfold convert
          rw [valid, present]
          refine ⟨⟨fun _ => ⟨rfl, fun _ same => (nomatch same)⟩, fun _ => ⟨_, rfl⟩⟩, ?_⟩
          intro result same
          cases same
          exact ⟨⟨fun _ => rfl, fun _ => rfl⟩, fun _ _ filled => absurd rfl filled⟩
      | some given =>
          have outcome : PresentOutcome (rule.convertPresent given) rule.kind given := by
            apply presentOutcome_of_valid
            rwa [validate, present] at valid
          rw [convert_of_valid valid present]
          refine ⟨⟨fun converted => ⟨rfl, ?_⟩, fun both => outcome.isOk.mpr (both.2 given rfl)⟩, ?_⟩
          · intro other same
            cases same
            exact outcome.isOk.mp converted
          · intro result converted
            have result := outcome.typed _ converted
            refine ⟨⟨fun null => absurd null result.ne_null, fun same => (nomatch same)⟩, ?_⟩
            intro other same _
            rw [eq_of_present? present] at same
            cases same
            exact result

def appointmentRule : Rule := { name := "at", kind := .dateTime }

/-- The thirtieth of February is valid by its shape, and not converted. -/
theorem impossible_day_refused :
    appointmentRule.validate (some (.string "2024-02-30T12:30:00Z")) = .ok () ∧
      appointmentRule.convert (some (.string "2024-02-30T12:30:00Z")) =
        .error ⟨"at is invalid", "e3bc3352-9f36-53c5-960f-db53b436246a"⟩ := by
  have date : DateDigits.Made Char.isDigit ⟨['2', '0', '2', '4'], ['0', '2'], ['3', '0']⟩ :=
    ⟨⟨rfl, by decide⟩, ⟨rfl, by decide⟩, ⟨rfl, by decide⟩⟩
  have time : TimeDigits.Made Char.isDigit ⟨['1', '2'], ['3', '0'], ['0', '0']⟩ :=
    ⟨⟨rfl, by decide⟩, ⟨rfl, by decide⟩, ⟨rfl, by decide⟩⟩
  have shape : isDateTimeText "2024-02-30T12:30:00Z".toList = true :=
    isDateTimeText_iff.mpr ⟨_, _, [], date.mono fun _ => isDecimal_of_isDigit,
      time.mono fun _ => isDecimal_of_isDigit, List.forall_mem_nil _, rfl⟩
  have unread : Timestamp.read? "2024-02-30T12:30:00Z".toList = none := by decide
  have present : present? (some (.string "2024-02-30T12:30:00Z")) =
      some (.string "2024-02-30T12:30:00Z") := rfl
  have valid : appointmentRule.validate (some (.string "2024-02-30T12:30:00Z")) = .ok () := by
    simp only [validate, present, validatePresent, appointmentRule, validateDate, shape,
      Bool.true_or, require, if_true]
  refine ⟨valid, ?_⟩
  rw [convert_of_valid valid present]
  simp only [convertPresent, appointmentRule, convertMoment, unread]
  rfl

end Rule

end RelationQuery
