import RelationQuery.Proofs.Conversion
import RelationQuery.Proofs.IntegerText
import RelationQuery.Proofs.RoundedIntegers

/-!
# Integers given as text

With a step of one, a numeral becomes a word of 64 bits by way of double precision. Of the integers
in range only those come through that are multiples of the gap around them, besides the greatest
one; the others become the nearest multiple, and those out of range the nearest word.
-/

namespace RelationQuery

open Sql (MadeOf)

/-! ## Reading digits -/

namespace Binary

theorem numeral?_digits {digits : List Char} (numeral : Text.IsDigits digits) :
    numeral? digits = some ⟨Text.digitsValue digits, 0⟩ := by
  have whole : digitsOf digits = digits := List.takeWhile_eq_self_iff.mpr numeral.2
  have rest : afterDigits digits = [] := List.dropWhile_eq_nil_iff.mpr numeral.2
  have filled : digits.isEmpty = false := by simpa using numeral.1
  unfold numeral?
  rw [whole, rest]
  dsimp only
  rw [filled, List.append_nil]
  rfl

theorem read_digits (format : Format) {digits : List Char} (numeral : Text.IsDigits digits) :
    read format digits = .ok (ofNumeral format false ⟨Text.digitsValue digits, 0⟩) := by
  have filled : digits.isEmpty = false := by simpa using numeral.1
  have unsigned := splitSign_run numeral []
  rw [List.append_nil] at unsigned
  unfold read
  rw [filled, unsigned]
  dsimp only
  rw [numeral?_digits numeral]
  rfl

theorem read_minus (format : Format) {digits : List Char} (numeral : Text.IsDigits digits) :
    read format ('-' :: digits) = .ok (ofNumeral format true ⟨Text.digitsValue digits, 0⟩) := by
  unfold read
  rw [splitSign]
  dsimp only
  rw [numeral?_digits numeral]
  rfl

end Binary

/-- A numeral without a fraction is cut to the word nearest to what stands for it; those too long to
be rounded at all are out of range. -/
theorem truncateInt64_ofNumeral (negative : Bool) (v : Nat) :
    truncateInt64 (Binary.ofNumeral .double negative ⟨v, 0⟩) =
      .ofInt (saturate (signed negative (roundedSize v))) := by
  unfold Binary.ofNumeral
  dsimp only
  split
  · rename_i least
    obtain rfl : v = 0 := by
      rcases least with none | small
      · exact none
      · omega
    rw [← truncateInt64_ofRatio]
    rfl
  · split
    · rename_i long
      have filled : v ≠ 0 := by
        rintro rfl
        exact absurd long (by decide)
      have large : 2 ^ 63 ≤ v := by
        by_contra small
        have digits : (Nat.toDigits 10 v).length ≤ 19 :=
          (Nat.length_toDigits_le_iff (by decide) (by decide)).mpr (by omega)
        omega
      rw [saturate_of_large (two_pow_le_roundedSize large)]
      cases negative <;> decide
    · rw [if_pos (Int.le_refl 0), Int.toNat_zero, Nat.pow_zero, Nat.mul_one, truncateInt64_ofRatio]

namespace Rule

/-- A rule for whole numbers without further bounds. -/
structure IsCount (rule : Rule) : Prop where
  kind : rule.kind = .number
  whole : rule.isWholeStep = true
  unbounded : rule.min = none ∧ rule.max = none
  places : rule.decimals = none

theorem isNumeralText_digits {digits : List Char} (numeral : Text.IsDigits digits) :
    isNumeralText digits = true ∧ isNumeralText ('-' :: digits) = true := by
  have made : MadeOf Text.isDecimal digits := fun c member =>
    Text.isDecimal_of_isDigit (numeral.2 c member)
  have rest : afterDecimals digits = [] := List.dropWhile_eq_nil_iff.mpr made
  constructor
  · unfold isNumeralText
    split
    · exact absurd numeral.head (by decide)
    · dsimp only
      rw [rest]
      rfl
  · change ((afterDecimals digits).isEmpty || isFraction (afterDecimals digits)) = true
    rw [rest]
    rfl

section

variable {rule : Rule} (count : rule.IsCount) {s : String}

include count

/-- A numeral that is read becomes the word that it is cut to. -/
theorem IsCount.convert_of_read (numeral : isNumeralText s.toList = true) {x : Double}
    (read : Binary.read .double s.toList = .ok x) :
    rule.convert (some (.string s)) = .ok (.int64 (truncateInt64 x)) := by
  have present : present? (some (.string s)) = some (.string s) := by
    have filled : s.isEmpty = false := by
      rw [← Bool.not_eq_true, String.isEmpty_iff]
      rintro rfl
      cases read
    simp [present?, filled]
  have valid : rule.validate (some (.string s)) = .ok () := by
    simp only [validate, present, validatePresent, count.kind, validateNumber, numberOf, numeral,
      if_true, read, count.unbounded.1, count.unbounded.2, count.places]
    rfl
  rw [convert_of_valid valid present]
  simp only [convertPresent, count.kind, convertNumber,
    Text.trim_of_solid (solid_of_isNumeralText numeral), read, count.whole, if_true]

theorem IsCount.exists_rounded {n : Int} (written : Text.Writes s.toList n)
    (bare : '+' ∉ s.toList) : ∃ r, Rounds n r ∧
      rule.convert (some (.string s)) = .ok (.int64 (.ofInt (saturate r))) := by
  have cut {negative : Bool} {v : Nat} (numeral : isNumeralText s.toList = true)
      (read : Binary.read .double s.toList = .ok (Binary.ofNumeral .double negative ⟨v, 0⟩)) :
      ∃ r, Rounds (signed negative v) r ∧
        rule.convert (some (.string s)) = .ok (.int64 (.ofInt (saturate r))) := by
    refine ⟨_, rounds_signed negative v, ?_⟩
    rw [← truncateInt64_ofNumeral]
    exact count.convert_of_read numeral read
  generalize s.toList = chars at cut written bare
  cases written with
  | unsigned numeral =>
      exact cut (isNumeralText_digits numeral).1 (Binary.read_digits .double numeral)
  | positive numeral => exact absurd List.mem_cons_self bare
  | negative numeral =>
      exact cut (isNumeralText_digits numeral).2 (Binary.read_minus .double numeral)

end

/-- How integers are converted that are given as text. Each one becomes a word: the one nearest to
what stands for the integer in double precision. It is the integer itself if and only if this is in
range and a multiple of the gap around it, or the greatest one. -/
theorem integers_converted_iff {rule : Rule} (count : rule.IsCount) {s : String} {n : Int}
    (written : Text.Writes s.toList n) (bare : '+' ∉ s.toList) :
    ∃ r w, Rounds n r ∧ rule.convert (some (.string s)) = .ok (.int64 w) ∧
      w.toInt = saturate r ∧
      (w.toInt = n ↔
        (-2 ^ 63 ≤ n ∧ n < 2 ^ 63) ∧ ((spacing n : Int) ∣ n ∨ n = 2 ^ 63 - 1)) := by
  obtain ⟨r, rounds, converted⟩ := count.exists_rounded written bare
  refine ⟨r, _, rounds, converted, toInt_ofInt_saturate r, ?_⟩
  rw [toInt_ofInt_saturate]
  exact rounds.saturate_eq_iff

def countRule : Rule := { name := "count", kind := .number, step := some one }

theorem isCount_countRule : countRule.IsCount := ⟨rfl, by decide +kernel, ⟨rfl, rfl⟩, rfl⟩

/-- Minus four is converted by this rule, and as it is small it stays what it is. -/
theorem fourLess_converted : countRule.IsCount ∧ Text.Writes "-4".toList (-4) ∧
    '+' ∉ "-4".toList ∧ ∃ r w, Rounds (-4) r ∧
      countRule.convert (some (.string "-4")) = .ok (.int64 w) ∧ w.toInt = saturate r ∧
      (w.toInt = -4 ↔
        (-2 ^ 63 ≤ (-4 : Int) ∧ (-4 : Int) < 2 ^ 63) ∧
          ((spacing (-4) : Int) ∣ -4 ∨ (-4 : Int) = 2 ^ 63 - 1)) := by
  have written : Text.Writes "-4".toList (-4) := @Text.Writes.negative ['4'] ⟨by decide, by decide⟩
  exact ⟨isCount_countRule, written, by decide,
    integers_converted_iff isCount_countRule written (by decide)⟩

/-- The first whole number that is not among the numbers of double precision becomes the one before
it, and the first one out of range the greatest word. -/
theorem uneven_count_rounded :
    countRule.convert (some (.string "9007199254740993")) = .ok (.int64 9007199254740992) ∧
      countRule.convert (some (.string "9223372036854775808")) =
        .ok (.int64 9223372036854775807) := by
  have written (text : String) (numeral : Text.IsDigits text.toList) := Text.Writes.unsigned numeral
  constructor
  · obtain ⟨r, rounds, converted⟩ := isCount_countRule.exists_rounded
      (written "9007199254740993" ⟨by decide, by decide⟩) (by decide)
    have even : r = 9007199254740992 := rounds.unique ⟨by decide, by decide, by decide⟩
    have word : Int64.ofInt (saturate 9007199254740992) = 9007199254740992 := by decide
    rw [converted, even, word]
  · obtain ⟨r, rounds, converted⟩ := isCount_countRule.exists_rounded
      (written "9223372036854775808" ⟨by decide, by decide⟩) (by decide)
    have kept : r = 9223372036854775808 := rounds.unique ⟨by decide, by decide, by decide⟩
    have word : Int64.ofInt (saturate 9223372036854775808) = 9223372036854775807 := by decide
    rw [converted, kept, word]

end Rule

end RelationQuery
