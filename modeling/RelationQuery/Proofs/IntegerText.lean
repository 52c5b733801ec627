import RelationQuery.Binary.Read
import RelationQuery.Proofs.CharRuns
import RelationQuery.Text.Digits

/-!
# Whole numbers in text

A whole number is written as decimal digits, at least one, behind a sign or none. The texts from
which an integer of 64 bits is read are those that write one in its range, however many zeros are in
front, and what is read is the number written.
-/

namespace RelationQuery.Text

open Sql (MadeOf)

/-! ## Magnitudes -/

theorem le_ofDigitChars (digits : List Char) (start : Nat) :
    start ≤ Nat.ofDigitChars 10 digits start := by
  induction digits generalizing start with
  | nil => exact Nat.le_refl _
  | cons c rest ih =>
      rw [Nat.ofDigitChars_cons]
      exact Nat.le_trans (by omega) (ih _)

theorem readMagnitude_digits {digits : List Char} (made : MadeOf Char.isDigit digits)
    {limit start : Nat} (overflow : IntegerError) (fits : start ≤ limit) :
    readMagnitude limit overflow start digits =
      if Nat.ofDigitChars 10 digits start ≤ limit then
        .ok (Nat.ofDigitChars 10 digits start) else .error overflow := by
  induction digits generalizing start with
  | nil => exact (if_pos fits).symm
  | cons c rest ih =>
      have digit := made c List.mem_cons_self
      have others : MadeOf Char.isDigit rest := fun d member =>
        made d (List.mem_cons_of_mem _ member)
      have next : start * 10 + digitValue c = 10 * start + (c.toNat - '0'.toNat) := by
        unfold digitValue
        omega
      simp only [readMagnitude, digit, Bool.not_true, Bool.false_eq_true, if_false, next,
        Nat.ofDigitChars_cons]
      by_cases room : 10 * start + (c.toNat - '0'.toNat) ≤ limit
      · rw [if_pos room, ih others room]
      · have grown := le_ofDigitChars rest (10 * start + (c.toNat - '0'.toNat))
        rw [if_neg room, if_neg (by omega)]

/-- A character that is no digit is never passed. -/
theorem readMagnitude_refused {c : Char} (refused : c.isDigit = false) {text : List Char}
    (member : c ∈ text) (limit start : Nat) (overflow : IntegerError) :
    ∃ error, readMagnitude limit overflow start text = .error error := by
  induction text generalizing start with
  | nil => cases member
  | cons d rest ih =>
      rcases List.mem_cons.mp member with rfl | later
      · exact ⟨.invalidDigit, by simp [readMagnitude, refused]⟩
      · unfold readMagnitude
        split
        · exact ⟨_, rfl⟩
        · dsimp only
          split
          · exact ih later _
          · exact ⟨_, rfl⟩

def IsDigits (text : List Char) : Prop := text ≠ [] ∧ MadeOf Char.isDigit text

theorem readDigits_eq_ok_iff {limit n : Nat} {overflow : IntegerError} {text : List Char} :
    readDigits limit overflow text = .ok n ↔
      IsDigits text ∧ digitsValue text = n ∧ n ≤ limit := by
  unfold readDigits
  by_cases empty : text = []
  · subst empty
    exact ⟨fun read => (nomatch read), fun ⟨digits, _⟩ => absurd rfl digits.1⟩
  rw [if_neg (by simpa using empty)]
  by_cases made : MadeOf Char.isDigit text
  · rw [readMagnitude_digits made overflow (Nat.zero_le _)]
    change (if digitsValue text ≤ limit then _ else _) = _ ↔ _
    constructor
    · intro read
      split at read
      · rename_i fits
        cases read
        exact ⟨⟨empty, made⟩, rfl, fits⟩
      · cases read
    · rintro ⟨_, rfl, fits⟩
      exact if_pos fits
  · obtain ⟨c, member, refused⟩ : ∃ c ∈ text, ¬c.isDigit = true := by
      simpa [MadeOf] using made
    obtain ⟨error, failed⟩ :=
      readMagnitude_refused (Bool.eq_false_iff.mpr refused) member limit 0 overflow
    rw [failed]
    exact ⟨fun read => (nomatch read), fun ⟨digits, _⟩ => absurd digits.2 made⟩

/-! ## Integers -/

/-- The whole number that a text writes. -/
inductive Writes : List Char → Int → Prop where
  | unsigned {digits : List Char} (numeral : IsDigits digits) :
      Writes digits (digitsValue digits)
  | positive {digits : List Char} (numeral : IsDigits digits) :
      Writes ('+' :: digits) (digitsValue digits)
  | negative {digits : List Char} (numeral : IsDigits digits) :
      Writes ('-' :: digits) (-(digitsValue digits))

theorem IsDigits.head {c : Char} {rest : List Char} (numeral : IsDigits (c :: rest)) :
    c.isDigit = true := numeral.2 c List.mem_cons_self

theorem writes_minus_iff {digits : List Char} {n : Int} :
    Writes ('-' :: digits) n ↔ IsDigits digits ∧ -(digitsValue digits : Int) = n := by
  constructor
  · rintro (numeral | _ | numeral)
    · exact absurd numeral.head (by decide)
    · exact ⟨numeral, rfl⟩
  · rintro ⟨numeral, rfl⟩
    exact .negative numeral

theorem writes_plus_iff {digits : List Char} {n : Int} :
    Writes ('+' :: digits) n ↔ IsDigits digits ∧ (digitsValue digits : Int) = n := by
  constructor
  · rintro (numeral | numeral | _)
    · exact absurd numeral.head (by decide)
    · exact ⟨numeral, rfl⟩
  · rintro ⟨numeral, rfl⟩
    exact .positive numeral

theorem writes_unsigned_iff {text : List Char} (minus : ∀ digits, text ≠ '-' :: digits)
    (plus : ∀ digits, text ≠ '+' :: digits) {n : Int} :
    Writes text n ↔ IsDigits text ∧ (digitsValue text : Int) = n := by
  constructor
  · rintro (numeral | _ | _)
    · exact ⟨numeral, rfl⟩
    · exact absurd rfl (plus _)
    · exact absurd rfl (minus _)
  · rintro ⟨numeral, rfl⟩
    exact .unsigned numeral

theorem map_readDigits_eq_ok_iff {limit : Nat} {overflow : IntegerError} {text : List Char}
    {change : Nat → Int} {n : Int} :
    (readDigits limit overflow text).map change = .ok n ↔
      IsDigits text ∧ change (digitsValue text) = n ∧ digitsValue text ≤ limit := by
  have read (m : Nat) := @readDigits_eq_ok_iff limit m overflow text
  cases result : readDigits limit overflow text with
  | error failed =>
      refine ⟨fun same => (nomatch same), fun ⟨numeral, _, fits⟩ => ?_⟩
      have whole := (read _).mpr ⟨numeral, rfl, fits⟩
      rw [result] at whole
      cases whole
  | ok m =>
      obtain ⟨numeral, rfl, fits⟩ := (read m).mp result
      constructor
      · intro same
        cases same
        exact ⟨numeral, rfl, fits⟩
      · rintro ⟨_, rfl, _⟩
        rfl

/-- An integer is read exactly from the texts that write one of 64 bits. -/
theorem readInt64_eq_ok_iff {text : List Char} {n : Int} :
    readInt64 text = .ok n ↔ Writes text n ∧ -2 ^ 63 ≤ n ∧ n < 2 ^ 63 := by
  unfold readInt64
  split
  · constructor
    · intro read
      cases read
    · rintro ⟨written, _⟩
      cases written with
      | unsigned numeral => exact absurd rfl numeral.1
  · rename_i digits
    have negated : (do let m ← readDigits (2 ^ 63) .tooSmall digits; pure (m : Int)).map
        (fun m => -m) = (readDigits (2 ^ 63) .tooSmall digits).map fun m : Nat => -(m : Int) := by
      cases readDigits (2 ^ 63) .tooSmall digits with
      | error failed => rfl
      | ok m => rfl
    rw [negated, map_readDigits_eq_ok_iff, writes_minus_iff, and_assoc]
    refine and_congr_right fun _ => and_congr_right fun same => ?_
    omega
  · rw [map_readDigits_eq_ok_iff, writes_plus_iff, and_assoc]
    refine and_congr_right fun _ => and_congr_right fun same => ?_
    change (digitsValue _ : Int) = n at same
    omega
  · rename_i minus plus
    rw [map_readDigits_eq_ok_iff, writes_unsigned_iff minus plus, and_assoc]
    refine and_congr_right fun _ => and_congr_right fun same => ?_
    change (digitsValue text : Int) = n at same
    omega

end RelationQuery.Text

/-! ## No sign in front of digits -/

namespace RelationQuery.Binary

open Text

theorem splitSign_of_digit {first : Char} (digit : first.isDigit = true) (rest : List Char) :
    splitSign (first :: rest) = (false, first :: rest) := by
  have minus := ne_of_digit digit (d := '-') (by decide)
  have plus := ne_of_digit digit (d := '+') (by decide)
  simp [splitSign, minus, plus]

theorem splitSign_run {digits : List Char} (numeral : IsDigits digits) (rest : List Char) :
    splitSign (digits ++ rest) = (false, digits ++ rest) := by
  cases digits with
  | nil => exact absurd rfl numeral.1
  | cons first others => exact splitSign_of_digit numeral.head (others ++ rest)

end RelationQuery.Binary
