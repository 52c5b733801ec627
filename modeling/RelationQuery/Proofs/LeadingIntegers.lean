import RelationQuery.Proofs.DecimalText
import RelationQuery.Proofs.IntegerText
import RelationQuery.Proofs.Trimming
import RelationQuery.Request

/-!
# Integers in front of text

A parameter may give an integer as a number, or in front of a text, behind white space and a sign.
Sign and size are read apart, and the size within the positive words. So a text gives every word but
the least one, whatever follows its digits, and nothing for an integer beyond the words.
-/

namespace RelationQuery

open Text
open Sql (MadeOf)

/-! ## Decimal text -/

namespace Text

/-- Digits do not begin with a sign. -/
theorem IsDigits.ne_signed {digits : List Char} (numeral : IsDigits digits) {sign : Char}
    (other : sign.isDigit = false) (rest : List Char) : digits ≠ sign :: rest := by
  rintro rfl
  rw [numeral.head] at other
  cases other

theorem isDigits_toDigits (n : Nat) : IsDigits (Nat.toDigits 10 n) :=
  ⟨Nat.toDigits_ne_nil, fun _ member => isDigit_toDigits member⟩

theorem writes_toDigits (n : Nat) : Writes (Nat.toDigits 10 n) n := by
  have written := Writes.unsigned (isDigits_toDigits n)
  rwa [digitsValue, Nat.ofDigitChars_toDigits (by decide) (by decide)] at written

/-- The decimal text of an integer writes it. -/
theorem writes_decimal (n : Int) : Writes (toString n).toList n := by
  rw [toList_toString_int]
  split
  · rename_i negative
    have written := Writes.negative (isDigits_toDigits n.natAbs)
    rw [digitsValue, Nat.ofDigitChars_toDigits (by decide) (by decide)] at written
    rwa [show -(n.natAbs : Int) = n by omega] at written
  · rename_i positive
    have written := writes_toDigits n.natAbs
    rwa [show (n.natAbs : Int) = n by omega] at written

theorem writes_plus_decimal {n : Int} (positive : 0 ≤ n) :
    Writes ('+' :: (toString n).toList) n := by
  rw [toList_toString_int, if_neg (by omega)]
  have written := Writes.positive (isDigits_toDigits n.natAbs)
  rw [digitsValue, Nat.ofDigitChars_toDigits (by decide) (by decide)] at written
  rwa [show (n.natAbs : Int) = n by omega] at written

end Text

/-! ## Signs and digits -/

namespace Request

section

variable {digits rest : List Char} (numeral : IsDigits digits)

include numeral

theorem readInt64_isDigits : (readInt64 digits).toOption =
    if digitsValue digits < 2 ^ 63 then some (digitsValue digits : Int) else none := by
  have written := Writes.unsigned numeral
  split
  · rename_i fits
    have read : readInt64 digits = .ok (digitsValue digits) :=
      readInt64_eq_ok_iff.mpr ⟨written, by omega, by omega⟩
    rw [read]
    rfl
  · rename_i large
    cases read : readInt64 digits with
    | error _ => rfl
    | ok n =>
        obtain ⟨same, -, bound⟩ := readInt64_eq_ok_iff.mp read
        obtain ⟨-, value⟩ := (writes_unsigned_iff (numeral.ne_signed (by decide))
          (numeral.ne_signed (by decide))).mp same
        omega

/-- What is read behind the sign is the run of digits, if it fits the positive words. -/
theorem leadingInteger?_of_split (stops : Stops Char.isDigit rest) {text : List Char}
    {negative : Bool}
    (split : Binary.splitSign (trimLeft text) = (negative, digits ++ rest)) :
    leadingInteger? text = if digitsValue digits < 2 ^ 63 then
      some (.ofInt (if negative then -(digitsValue digits) else digitsValue digits)) else none := by
  have read := readInt64_isDigits numeral
  unfold leadingInteger?
  rw [split]
  dsimp only
  rw [takeWhile_run stops numeral.2]
  cases outcome : readInt64 digits with
  | error _ =>
      rw [outcome] at read
      split at read
      · cases read
      · rename_i large
        exact (if_neg large).symm
  | ok n =>
      rw [outcome] at read
      split at read
      · rename_i fits
        cases read
        exact (if_pos fits).symm
      · cases read

end

/-- Behind white space a text gives the integer that it begins with, if this is a word and not the
least one. -/
theorem leadingInteger?_of_writes {blanks text rest : List Char} (blank : MadeOf isBlank blanks)
    (stops : Stops Char.isDigit rest) {n : Int} (written : Writes text n) :
    leadingInteger? (blanks ++ (text ++ rest)) =
      if -2 ^ 63 < n ∧ n < 2 ^ 63 then some (.ofInt n) else none := by
  have opened {first : Char} (solid : isBlank first = false) (others : List Char) :
      trimLeft (blanks ++ first :: others) = first :: others :=
    (trimLeft_blanks blank _).trans (trimLeft_cons solid _)
  have read {digits : List Char} (numeral : IsDigits digits) (negative : Bool)
      (split : Binary.splitSign (trimLeft (blanks ++ (text ++ rest))) = (negative, digits ++ rest))
      (value : n = if negative then -(digitsValue digits : Int) else digitsValue digits) :
      leadingInteger? (blanks ++ (text ++ rest)) =
        if -2 ^ 63 < n ∧ n < 2 ^ 63 then some (.ofInt n) else none := by
    rw [leadingInteger?_of_split numeral stops split, ← value]
    congr 1
    rw [eq_iff_iff]
    cases negative <;> simp only [if_true, Bool.false_eq_true, if_false] at value <;> omega
  cases written with
  | unsigned numeral =>
      refine read numeral false ?_ rfl
      obtain ⟨first, others, rfl⟩ := List.exists_cons_of_ne_nil numeral.1
      rw [List.cons_append, opened (not_blank_of_digit numeral.head)]
      exact Binary.splitSign_run numeral rest
  | positive numeral =>
      refine read numeral false ?_ rfl
      rw [List.cons_append, opened (by decide)]
      rfl
  | negative numeral =>
      refine read numeral true ?_ rfl
      rw [List.cons_append, opened (by decide)]
      rfl

/-- A word given as a number is that word. -/
theorem integerOf?_number (n : Int64) : integerOf? (.number (.whole n.toInt)) = some n := by
  have bound := n.toInt_lt
  simp only [integerOf?, Json.Number.toInt64?, Int64.ofInt_toInt]
  exact if_pos bound

theorem integerOf?_string (text : List Char) :
    integerOf? (.string (.ofList text)) = leadingInteger? text := by
  rw [integerOf?, String.toList_ofList]

/-- Which integers are read back. Given as a number, every word is. In front of a text, its decimal
text gives every word but the least one, behind any white space, with a plus or without one where
it is not negative, and in front of anything but a digit. What a text writes in digits beyond the
words gives nothing. -/
theorem words_read_back_but_least {blanks rest : List Char} (blank : MadeOf isBlank blanks)
    (stops : Stops Char.isDigit rest) :
    (∀ (n : Int64) (sign : List Char), sign = [] ∨ sign = ['+'] ∧ 0 ≤ n.toInt →
      integerOf? (.number (.whole n.toInt)) = some n ∧
      integerOf? (.string (.ofList (blanks ++ (sign ++ (toString n.toInt).toList ++ rest)))) =
        if n = Int64.minValue then none else some n) ∧
    ∀ (n : Int) (text : List Char), Writes text n → n < -2 ^ 63 ∨ 2 ^ 63 ≤ n →
      integerOf? (.string (.ofList (blanks ++ (text ++ rest)))) = none := by
  constructor
  · intro n sign signed
    have written : Writes (sign ++ (toString n.toInt).toList) n.toInt := by
      rcases signed with rfl | ⟨rfl, positive⟩
      · exact writes_decimal n.toInt
      · exact writes_plus_decimal positive
    refine ⟨integerOf?_number n, ?_⟩
    rw [integerOf?_string, leadingInteger?_of_writes blank stops written, Int64.ofInt_toInt]
    have least : n = Int64.minValue ↔ n.toInt = -2 ^ 63 := Int64.toInt_inj.symm
    have low := n.le_toInt
    have high := n.toInt_lt
    by_cases edge : n = Int64.minValue
    · rw [if_pos edge, if_neg (by rw [least] at edge; omega)]
    · rw [if_neg edge, if_pos (by rw [least] at edge; omega)]
  · intro n text written beyond
    rw [integerOf?_string, leadingInteger?_of_writes blank stops written]
    exact if_neg (by omega)

/-- Behind a wide space and in front of a word, all words but the least one are read back. -/
theorem words_read_back_before_items :
    MadeOf isBlank ['\u2003'] ∧ Stops Char.isDigit " items".toList ∧
    (∀ (n : Int64) (sign : List Char), sign = [] ∨ sign = ['+'] ∧ 0 ≤ n.toInt →
      integerOf? (.number (.whole n.toInt)) = some n ∧
      integerOf? (.string (.ofList
          (['\u2003'] ++ (sign ++ (toString n.toInt).toList ++ " items".toList)))) =
        if n = Int64.minValue then none else some n) ∧
    ∀ (n : Int) (text : List Char), Writes text n → n < -2 ^ 63 ∨ 2 ^ 63 ≤ n →
      integerOf? (.string (.ofList (['\u2003'] ++ (text ++ " items".toList)))) = none := by
  have blank : MadeOf isBlank ['\u2003'] := by decide
  have stops : Stops Char.isDigit " items".toList := stops_cons (by decide) _
  exact ⟨blank, stops, words_read_back_but_least blank stops⟩

/-- The least word is read as a number, and lost as text. -/
theorem least_word_lost :
    integerOf? (.number (.whole (-9223372036854775808))) = some Int64.minValue ∧
      integerOf? (.string "-9223372036854775808") = none := by
  decide

end Request

end RelationQuery
