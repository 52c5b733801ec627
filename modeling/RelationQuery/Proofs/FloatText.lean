import RelationQuery.Proofs.IntegerText
import RelationQuery.Proofs.JsonText
import RelationQuery.Proofs.ScaledNumbers

/-!
# The text of floating numbers

Every number that can be read has a text that can be read: the digits around the point are one run
of digits again, which fits a significand, and the exponent is the one behind the mark.
-/

namespace RelationQuery.Json

open Text
open Sql (MadeOf)

/-! ## Numbers that are read -/

/-- What can be read as a number: a whole number of 64 bits, with or without a sign, or a finite
floating one. -/
def Number.InRange : Number → Prop
  | .whole n => -2 ^ 63 ≤ n ∧ n < 2 ^ 64
  | .float x => x.isFinite = true

theorem inRange_of_toDouble? {negative : Bool} {number : Scaled} {n : Number}
    (read : (number.toDouble? negative).map .float = some n) : n.InRange := by
  obtain ⟨x, double, rfl⟩ := Option.map_eq_some_iff.mp read
  exact Scaled.isFinite_of_toDouble? double

theorem inRange_of_wholeNumber? {negative : Bool} {digits : List Char} {n : Number}
    (read : wholeNumber? negative digits = some n) : n.InRange := by
  unfold wholeNumber? at read
  dsimp only at read
  split at read
  · rename_i positive
    cases read
    have fits : Nat.ofDigitChars 10 digits 0 ≤ significandMax :=
      of_decide_eq_true ((Bool.and_eq_true _ _).mp positive).2
    have bound : significandMax < 2 ^ 64 := by decide
    constructor <;> omega
  · split at read
    · rename_i below
      cases read
      simp only [Bool.and_eq_true, decide_eq_true_eq] at below
      constructor <;> omega
    · exact inRange_of_toDouble? read

theorem inRange_of_readExponent? {negative : Bool} {number : Scaled} {text : List Char}
    {found : Number × List Char} (read : readExponent? negative number text = some found) :
    found.1.InRange := by
  cases text with
  | nil =>
      obtain ⟨x, double, rfl⟩ := Option.map_eq_some_iff.mp read
      exact Scaled.isFinite_of_toDouble? double
  | cons c rest =>
      rw [readExponent?] at read
      split at read
      · dsimp only at read
        split at read
        · cases read
        · obtain ⟨n, applied, rfl⟩ := Option.map_eq_some_iff.mp read
          unfold applyExponent? at applied
          split at applied
          · exact inRange_of_toDouble? applied
          · split at applied
            · cases applied
            · cases applied
              exact isFinite_zero negative
      · obtain ⟨x, double, rfl⟩ := Option.map_eq_some_iff.mp read
        exact Scaled.isFinite_of_toDouble? double

theorem inRange_of_readMagnitude? {negative : Bool} {text : List Char}
    {found : Number × List Char} (read : readMagnitude? negative text = some found) :
    found.1.InRange := by
  unfold readMagnitude? at read
  dsimp only at read
  split at read
  · cases read
  · split at read
    · obtain ⟨n, whole, rfl⟩ := Option.map_eq_some_iff.mp read
      exact inRange_of_wholeNumber? whole
    · split at read
      · split at read
        · cases read
        · exact inRange_of_readExponent? read
      · split at read
        · exact inRange_of_readExponent? read
        · obtain ⟨n, whole, rfl⟩ := Option.map_eq_some_iff.mp read
          exact inRange_of_wholeNumber? whole

/-- Every number that is read is in range. -/
theorem inRange_of_readNumber? {text : List Char} {found : Number × List Char}
    (read : readNumber? text = some found) : found.1.InRange := by
  unfold readNumber? at read
  split at read
  · exact inRange_of_readMagnitude? read
  · exact inRange_of_readMagnitude? read

/-! ## Digits -/

namespace Scaled

theorem takeWhole_eq {digits : List Char} {number : Scaled}
    (fits : Nat.ofDigitChars 10 digits number.significand ≤ significandMax) :
    number.takeWhole digits =
      ⟨Nat.ofDigitChars 10 digits number.significand, number.exponent⟩ := by
  induction digits generalizing number with
  | nil => rfl
  | cons digit rest ih =>
      have next : number.significand * 10 + digitValue digit =
          10 * number.significand + (digit.toNat - '0'.toNat) := by
        rw [digitValue, Nat.mul_comm]
      rw [Nat.ofDigitChars_cons] at fits ⊢
      have room := (le_ofDigitChars rest _).trans fits
      rw [takeWhole, next, if_pos room, ih fits]

theorem takeFraction_eq {digits : List Char} {number : Scaled}
    (fits : Nat.ofDigitChars 10 digits number.significand ≤ significandMax) :
    number.takeFraction digits =
      ⟨Nat.ofDigitChars 10 digits number.significand, number.exponent - digits.length⟩ := by
  induction digits generalizing number with
  | nil => simp [takeFraction, Nat.ofDigitChars]
  | cons digit rest ih =>
      have next : number.significand * 10 + digitValue digit =
          10 * number.significand + (digit.toNat - '0'.toNat) := by
        rw [digitValue, Nat.mul_comm]
      rw [Nat.ofDigitChars_cons] at fits ⊢
      have room := (le_ofDigitChars rest _).trans fits
      rw [takeFraction, next, if_pos room, ih fits, List.length_cons]
      congr 1
      push_cast
      ring

/-- The digits on both sides of a point are one run, as long as it fits. -/
theorem take_eq {whole fraction : List Char}
    (fits : Nat.ofDigitChars 10 (whole ++ fraction) 0 ≤ significandMax) :
    (takeWhole ⟨0, 0⟩ whole).takeFraction fraction =
      ⟨Nat.ofDigitChars 10 (whole ++ fraction) 0, -fraction.length⟩ := by
  rw [Nat.ofDigitChars_append] at fits ⊢
  have start := (le_ofDigitChars fraction _).trans fits
  rw [takeWhole_eq start, takeFraction_eq fits, zero_sub]

end Scaled

/-! ## Numerals -/

/-- Digits before a point, or before an exponent: at least one, and no zero in front of another. -/
structure IsWhole (digits : List Char) : Prop where
  numeral : IsDigits digits
  leading : digits.head? = some '0' → digits.length = 1

section

variable {whole : List Char} (digits : IsWhole whole)

include digits

theorem IsWhole.accepted :
    (whole.isEmpty || (whole.head? == some '0' && decide (1 < whole.length))) = false := by
  have filled : whole.isEmpty = false := by simpa using digits.numeral.1
  rw [filled, Bool.false_or]
  by_cases zero : whole.head? = some '0'
  · simp [digits.leading zero]
  · simp [zero]

/-- A numeral with a point is read as the run of its digits. -/
theorem readMagnitude?_point (negative : Bool) {fraction : List Char} (places : IsDigits fraction)
    (fits : Nat.ofDigitChars 10 (whole ++ fraction) 0 ≤ significandMax) {tail : List Char}
    (ends : Stops Char.isDigit tail) :
    readMagnitude? negative (whole ++ '.' :: (fraction ++ tail)) =
      readExponent? negative ⟨Nat.ofDigitChars 10 (whole ++ fraction) 0, -fraction.length⟩
        tail := by
  have point : Stops Char.isDigit ('.' :: (fraction ++ tail)) := stops_cons rfl _
  have taken : Binary.digitsOf (whole ++ '.' :: (fraction ++ tail)) = whole :=
    takeWhile_run point digits.numeral.2
  have dropped : Binary.afterDigits (whole ++ '.' :: (fraction ++ tail)) =
      '.' :: (fraction ++ tail) := dropWhile_run point digits.numeral.2
  have behind : Binary.digitsOf (fraction ++ tail) = fraction := takeWhile_run ends places.2
  have last : Binary.afterDigits (fraction ++ tail) = tail := dropWhile_run ends places.2
  have filled : fraction.isEmpty = false := by simpa using places.1
  rw [readMagnitude?, taken, dropped]
  dsimp only
  rw [digits.accepted, behind, last, filled, Scaled.take_eq fits]
  rfl

/-- A numeral without a point goes on with its exponent. -/
theorem readMagnitude?_mark (negative : Bool)
    (fits : Nat.ofDigitChars 10 whole 0 ≤ significandMax) (tail : List Char) :
    readMagnitude? negative (whole ++ 'e' :: tail) =
      readExponent? negative ⟨Nat.ofDigitChars 10 whole 0, 0⟩ ('e' :: tail) := by
  have mark : Stops Char.isDigit ('e' :: tail) := stops_cons rfl _
  have taken : Binary.digitsOf (whole ++ 'e' :: tail) = whole :=
    takeWhile_run mark digits.numeral.2
  have dropped : Binary.afterDigits (whole ++ 'e' :: tail) = 'e' :: tail :=
    dropWhile_run mark digits.numeral.2
  rw [readMagnitude?, taken, dropped]
  dsimp only
  rw [digits.accepted, Scaled.takeWhole_eq fits]
  rfl

end

theorem readExponent?_of_stops {rest : List Char} (ends : Stops goesOn rest) (negative : Bool)
    (number : Scaled) :
    readExponent? negative number rest =
      (number.toDouble? negative).map fun x => (.float x, rest) := by
  cases rest with
  | nil => rfl
  | cons c rest =>
      have none := ends c rfl
      simp only [goesOn, Bool.or_eq_false_iff] at none
      simp [readExponent?, none]

/-- An exponent with its sign is applied. -/
theorem readExponent?_mark {rest : List Char} (ends : Stops goesOn rest) (negative : Bool)
    (number : Scaled) (exponent : Int) :
    readExponent? negative number
        ('e' :: ((if exponent < 0 then ['-'] else ['+']) ++
          (Nat.toDigits 10 exponent.natAbs ++ rest))) =
      (applyExponent? negative (decide (exponent < 0)) exponent.natAbs number).map fun n =>
        (n, rest) := by
  have made : MadeOf Char.isDigit (Nat.toDigits 10 exponent.natAbs) := fun _ => isDigit_toDigits
  have taken : Binary.digitsOf (Nat.toDigits 10 exponent.natAbs ++ rest) =
      Nat.toDigits 10 exponent.natAbs := takeWhile_run (stops_digit ends) made
  have dropped : Binary.afterDigits (Nat.toDigits 10 exponent.natAbs ++ rest) = rest :=
    dropWhile_run (stops_digit ends) made
  have filled : (Nat.toDigits 10 exponent.natAbs).isEmpty = false := by simp
  have sign : Binary.splitSign ((if exponent < 0 then ['-'] else ['+']) ++
      (Nat.toDigits 10 exponent.natAbs ++ rest)) =
        (decide (exponent < 0), Nat.toDigits 10 exponent.natAbs ++ rest) := by
    by_cases below : exponent < 0
    · simp [below, Binary.splitSign]
    · simp [below, Binary.splitSign]
  have mark : ('e' == 'e' || 'e' == 'E') = true := rfl
  rw [readExponent?, mark, sign]
  dsimp only
  rw [taken, dropped, filled, Nat.ofDigitChars_ten_toDigits]
  rfl

/-! ## Layouts -/

def Reads (negative : Bool) (text : List Char) : Prop :=
  ∃ n, ∀ rest, Stops goesOn rest → readMagnitude? negative (text ++ rest) = some (n, rest)

theorem Scaled.exists_of_negative (number : Scaled) (broken : number.exponent < 0)
    (negative : Bool) : ∃ x, number.toDouble? negative = some x := by
  unfold toDouble? magnitude?
  dsimp only
  rw [if_pos broken]
  exact ⟨_, rfl⟩

/-- Digits around a point are read. -/
theorem reads_point (whole fraction : List Char) (digits : IsWhole whole)
    (places : IsDigits fraction)
    (fits : Nat.ofDigitChars 10 (whole ++ fraction) 0 ≤ significandMax) (negative : Bool) :
    Reads negative (whole ++ '.' :: fraction) := by
  have positive := List.length_pos_iff.mpr places.1
  have broken : -(fraction.length : Int) < 0 := by omega
  obtain ⟨x, double⟩ := Scaled.exists_of_negative
    ⟨Nat.ofDigitChars 10 (whole ++ fraction) 0, -fraction.length⟩ broken negative
  refine ⟨.float x, fun rest ends => ?_⟩
  rw [List.append_assoc, List.cons_append,
    readMagnitude?_point digits negative places fits (stops_digit ends), readExponent?_of_stops ends, double]
  rfl

theorem isWhole_zero : IsWhole ['0'] := ⟨⟨by decide, by decide⟩, fun _ => rfl⟩

/-- The first digit of a number that is not zero is not zero either. -/
structure Begins (n : Nat) (first : Char) (others : List Char) : Prop where
  digits : Nat.toDigits 10 n = first :: others
  digit : first.isDigit = true
  filled : first ≠ '0'
  made : MadeOf Char.isDigit others

theorem exists_begins {n : Nat} (filled : n ≠ 0) : ∃ first others, Begins n first others := by
  obtain ⟨first, others, begins, digit⟩ := exists_toDigits n
  refine ⟨first, others, begins, digit, ?_, fun c member => ?_⟩
  · rintro rfl
    exact filled (eq_zero_of_head?_toDigits (by rw [begins]; rfl))
  · exact isDigit_toDigits (begins ▸ List.mem_cons_of_mem _ member)

section

variable {n : Nat} {first : Char} {others : List Char} (begins : Begins n first others)

include begins

theorem Begins.value : Nat.ofDigitChars 10 (first :: others) 0 = n := by
  rw [← begins.digits]
  exact Nat.ofDigitChars_ten_toDigits

theorem Begins.lt_pow : n < 10 ^ (first :: others).length := by
  rw [← begins.digits]
  exact Binary.lt_pow_toDigits n

theorem Begins.all : MadeOf Char.isDigit (first :: others) :=
  List.forall_mem_cons.mpr ⟨begins.digit, begins.made⟩

/-- Whatever digits follow the first one. -/
theorem Begins.isWhole {following : List Char} (made : MadeOf Char.isDigit following) :
    IsWhole (first :: following) :=
  ⟨⟨List.cons_ne_nil _ _, List.forall_mem_cons.mpr ⟨begins.digit, made⟩⟩,
    fun zero => absurd (Option.some.inj zero) begins.filled⟩

end

theorem isDigit_zeros (count : Nat) : MadeOf Char.isDigit (List.replicate count '0') := by
  intro c member
  rw [List.eq_of_mem_replicate member]
  rfl

theorem reads_positional_zero (negative : Bool) :
    Reads negative (Binary.Layout.json.positionalText ⟨0, 0⟩) :=
  reads_point ['0'] ['0'] isWhole_zero ⟨by decide, by decide⟩ (by decide) negative

section

variable {n : Nat} {first : Char} {others : List Char} (begins : Begins n first others)

include begins

/-- A whole number ends in zeros, a point and one more zero. -/
theorem Begins.reads_whole {places : Nat} (short : places + (first :: others).length ≤ 16)
    (negative : Bool) :
    Reads negative (first :: others ++ List.replicate places '0' ++ ['.', '0']) := by
  have made : MadeOf Char.isDigit (others ++ List.replicate places '0') :=
    List.forall_mem_append.mpr ⟨begins.made, isDigit_zeros _⟩
  refine reads_point _ ['0'] (begins.isWhole made) ⟨by decide, by decide⟩ ?_ negative
  rw [Nat.ofDigitChars_append, ← List.cons_append, Nat.ofDigitChars_append, begins.value,
    Nat.ofDigitChars_replicate_zero]
  have small : 10 ^ places * n ≤ 10 ^ 16 := by
    calc 10 ^ places * n ≤ 10 ^ places * 10 ^ (first :: others).length :=
          Nat.mul_le_mul_left _ begins.lt_pow.le
      _ = 10 ^ (places + (first :: others).length) := (Nat.pow_add _ _ _).symm
      _ ≤ 10 ^ 16 := Nat.pow_le_pow_right (by decide) short
  have bound : 10 * 10 ^ 16 ≤ significandMax := by decide
  exact (Nat.mul_le_mul_left 10 small).trans bound

/-- A point may stand between the digits. -/
theorem Begins.reads_split (fits : n ≤ significandMax) {front : Nat} (inside : front < others.length)
    (negative : Bool) :
    Reads negative
      ((first :: others).take (front + 1) ++ '.' :: (first :: others).drop (front + 1)) := by
  have whole : MadeOf Char.isDigit (others.take front) := fun c member =>
    begins.made c (List.mem_of_mem_take member)
  have fraction : IsDigits (others.drop front) := by
    refine ⟨?_, fun c member => begins.made c (List.mem_of_mem_drop member)⟩
    rw [Ne, List.drop_eq_nil_iff]
    exact Nat.not_le.mpr inside
  have joined : (first :: others.take front) ++ others.drop front = first :: others :=
    congrArg (first :: ·) (List.take_append_drop front others)
  refine reads_point _ _ (begins.isWhole whole) fraction ?_ negative
  rw [joined, begins.value]
  exact fits

/-- A small number has zeros between the point and its digits. -/
theorem Begins.reads_small (fits : n ≤ significandMax) (zeros : Nat) (negative : Bool) :
    Reads negative ('0' :: '.' :: List.replicate zeros '0' ++ first :: others) := by
  have value : Nat.ofDigitChars 10
      (['0'] ++ (List.replicate zeros '0' ++ first :: others)) 0 = n := by
    have zero : Nat.ofDigitChars 10 ['0'] 0 = 0 := rfl
    rw [Nat.ofDigitChars_append, Nat.ofDigitChars_append, Nat.ofDigitChars_replicate_zero,
      zero, Nat.mul_zero, begins.value]
  refine reads_point ['0'] _ isWhole_zero ⟨by simp, ?_⟩ (value.trans_le fits) negative
  exact List.forall_mem_append.mpr ⟨isDigit_zeros _, begins.all⟩

end

/-- A number without an exponent mark is read. -/
theorem reads_positional {number : Binary.DecimalDigits} (filled : number.digits ≠ 0)
    (fits : number.digits ≤ significandMax)
    (short : number.exponent + (Nat.toDigits 10 number.digits).length - 1 < 16) (negative : Bool) :
    Reads negative (Binary.Layout.json.positionalText number) := by
  obtain ⟨n, exponent⟩ := number
  dsimp only at filled fits short
  obtain ⟨first, others, begins⟩ := exists_begins filled
  have keeps : Binary.Layout.json.keepsPoint = true := rfl
  unfold Binary.Layout.positionalText
  dsimp only
  rw [begins.digits] at short ⊢
  rw [if_pos keeps]
  split
  · exact begins.reads_whole (by omega) negative
  · split
    · rename_i inside
      obtain ⟨front, cut⟩ : ∃ front, (first :: others).length - (-exponent).toNat = front + 1 :=
        ⟨(first :: others).length - (-exponent).toNat - 1, by omega⟩
      rw [cut]
      rw [List.length_cons] at cut
      exact begins.reads_split fits (by omega) negative
    · exact begins.reads_small fits _ negative

/-- An exponent puts the digits back to where they stand. -/
theorem exists_applyExponent? {n : Nat} (places : Nat) {exponent leading : Int}
    (read : (Scaled.magnitude? ⟨n, exponent⟩).isSome = true)
    (first : leading = exponent + places) (bound : leading ≤ exponentMax) (negative : Bool) :
    ∃ x, applyExponent? negative (decide (leading < 0)) leading.natAbs ⟨n, -places⟩ = some x := by
  unfold applyExponent?
  split
  · have back : (if decide (leading < 0) = true then -(places : Int) - leading.natAbs
        else -places + leading.natAbs) = exponent := by
      simp only [decide_eq_true_eq]
      split <;> omega
    obtain ⟨x, magnitude⟩ := Option.isSome_iff_exists.mp read
    dsimp only
    rw [back, Scaled.toDouble?, magnitude]
    exact ⟨_, rfl⟩
  · have below : leading < 0 := by omega
    rw [decide_eq_true below, Bool.not_true, Bool.and_false]
    exact ⟨_, rfl⟩

/-- A number with an exponent mark is read if its digits are. -/
theorem reads_scientific {number : Binary.DecimalDigits} (filled : number.digits ≠ 0)
    (fits : number.digits ≤ significandMax)
    (read : (Scaled.magnitude? ⟨number.digits, number.exponent⟩).isSome = true) {leading : Int}
    (first : leading = number.exponent + (Nat.toDigits 10 number.digits).length - 1)
    (bound : leading ≤ exponentMax) (negative : Bool) :
    Reads negative (Binary.Layout.json.scientificText number leading) := by
  obtain ⟨n, exponent⟩ := number
  dsimp only at filled fits read first
  obtain ⟨c, others, begins⟩ := exists_begins filled
  rw [begins.digits, List.length_cons] at first
  obtain ⟨x, applied⟩ := exists_applyExponent? others.length read (by omega) bound negative
  refine ⟨x, fun rest ends => ?_⟩
  have mark := readExponent?_mark ends negative ⟨n, -(others.length : Int)⟩ leading
  have signs : Binary.Layout.json.signsExponent = true := rfl
  rw [applied] at mark
  unfold Binary.Layout.scientificText
  dsimp only
  rw [begins.digits, if_pos signs]
  cases others with
  | nil =>
      have whole := readMagnitude?_mark (begins.isWhole begins.made) negative
        (begins.value.trans_le fits)
      rw [begins.value] at whole
      simp only [List.append_assoc, List.cons_append]
      exact (whole _).trans mark
  | cons d others =>
      have tail : Stops Char.isDigit ('e' :: ((if leading < 0 then ['-'] else ['+']) ++
          (Nat.toDigits 10 leading.natAbs ++ rest))) := stops_cons rfl _
      have single : IsWhole [c] := begins.isWhole fun _ member => nomatch member
      have whole := readMagnitude?_point single negative ⟨List.cons_ne_nil _ _, begins.made⟩
        (begins.value.trans_le fits) tail
      rw [List.singleton_append, List.singleton_append, begins.value] at whole
      simp only [List.append_assoc, List.cons_append]
      exact whole.trans mark

/-! ## Every number that can be read -/

/-- The magnitude of a finite number is read. -/
theorem reads_magnitudeText {significand : Nat} {exponent : Int} (filled : 0 < significand)
    (bits : significand < 2 ^ 53) (range : exponent ≤ 971) (negative : Bool) :
    Reads negative (Binary.Layout.json.magnitudeText
      (Binary.shortest .double .toEven significand exponent)) := by
  obtain ⟨digits, small, -⟩ := Binary.shortest_bounds .double .toEven filled exponent
  have read := Scaled.isSome_shortest filled bits range
  have leading := Scaled.leading_le filled bits range
  have fits := small.trans (by decide : 10 ^ 18 ≤ significandMax)
  have most : (1024 : Int) ≤ exponentMax := by decide
  generalize Binary.shortest .double .toEven significand exponent = number at *
  unfold Binary.Layout.magnitudeText
  dsimp only
  split
  · rename_i positional
    have short := of_decide_eq_true ((Bool.and_eq_true _ _).mp positional).2
    exact reads_positional digits fits short negative
  · exact reads_scientific digits fits read rfl (leading.trans most) negative

theorem Number.legible_float {x : Double} (finite : x.isFinite = true) :
    (Number.float x).Legible := by
  obtain ⟨negative, significand, exponent, parts⟩ := x.isFinite_iff.mp finite
  obtain ⟨bits, range⟩ := Scaled.finite_bounds parts
  have reads : Reads negative (if significand = 0 then Binary.Layout.json.positionalText ⟨0, 0⟩
      else Binary.Layout.json.magnitudeText
        (Binary.shortest .double Binary.Layout.json.tie significand exponent)) := by
    split
    · exact reads_positional_zero negative
    · rename_i filled
      exact reads_magnitudeText (Nat.pos_of_ne_zero filled) bits range negative
  obtain ⟨n, read⟩ := reads
  obtain ⟨first, others, begins, digit⟩ := exists_digit_of_readMagnitude? (read [] stops_nil)
  rw [List.append_nil] at begins
  have number : ∀ rest, Stops goesOn rest →
      readNumber? ((Number.float x).text ++ rest) = some (n, rest) := by
    intro rest ends
    have here := read rest ends
    rw [Number.text, Binary.text, parts]
    dsimp only
    rw [begins] at here ⊢
    cases negative with
    | true => exact here
    | false =>
        rw [← here]
        exact readNumber?_of_digit digit _
  exact (Number.legible_of_read number).1

/-- Every number that can be read is read from its text again. -/
theorem Number.InRange.legible {n : Number} (range : n.InRange) : n.Legible := by
  cases n with
  | whole n => exact (Number.legible_whole range.1 range.2).1
  | float x => exact Number.legible_float range

end RelationQuery.Json
