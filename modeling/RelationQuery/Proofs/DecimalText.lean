import RelationQuery.Proofs.Identifiers
import RelationQuery.Text.Digits

/-!
# Whole numbers as text

The text of a whole number is its decimal digits, behind a minus sign where it is negative. Digits
with zeros in front up to a width are cut from the front of a longer text again.
-/

namespace RelationQuery.Text

theorem isDigit_toDigits {n : Nat} {c : Char} (member : c ∈ Nat.toDigits 10 n) :
    c.isDigit = true :=
  Nat.isDigit_of_mem_toDigits (by decide) (by decide) member

theorem exists_toDigits (n : Nat) :
    ∃ first others, Nat.toDigits 10 n = first :: others ∧ first.isDigit = true := by
  obtain ⟨first, others, begins⟩ := List.exists_cons_of_ne_nil (@Nat.toDigits_ne_nil n 10)
  exact ⟨first, others, begins, isDigit_toDigits (begins ▸ List.mem_cons_self)⟩

/-- Only the digits of zero begin with a zero. -/
theorem eq_zero_of_head?_toDigits {n : Nat} (leading : (Nat.toDigits 10 n).head? = some '0') :
    n = 0 := by
  induction n using Nat.strongRecOn with
  | _ n ih =>
      by_cases single : n < 10
      · have digit : ∀ d < 10, Nat.digitChar d = '0' → d = 0 := by decide
        rw [Nat.toDigits_of_lt_base single] at leading
        exact digit n single (Option.some.inj leading)
      · obtain ⟨first, others, begins, -⟩ := exists_toDigits (n / 10)
        rw [Nat.toDigits_of_base_le (by decide) (by omega), begins] at leading
        have rest := ih (n / 10) (by omega) (by rwa [begins])
        omega

theorem toList_toString_nat (n : Nat) : (toString n).toList = Nat.toDigits 10 n := by
  rw [Nat.toString_eq_repr, Nat.toList_repr]

theorem toList_toString_int (n : Int) :
    (toString n).toList =
      if n < 0 then '-' :: Nat.toDigits 10 n.natAbs else Nat.toDigits 10 n.natAbs := by
  cases n with
  | ofNat m =>
      have notNegative : ¬ Int.ofNat m < 0 := Int.not_lt.mpr (Int.natCast_nonneg m)
      rw [if_neg notNegative]
      exact toList_toString_nat m
  | negSucc m =>
      rw [if_pos (Int.negSucc_lt_zero m)]
      change ("-" ++ m.succ.repr).toList = _
      rw [String.toList_append, Nat.toList_repr]
      rfl

/-! ## Digits of a width -/

open Sql (MadeOf)

theorem isDigit_padded (width n : Nat) : MadeOf Char.isDigit (padded width n) := by
  intro c member
  obtain zero | digit := List.mem_append.mp member
  · rw [List.eq_of_mem_replicate zero]
    rfl
  · exact isDigit_toDigits digit

theorem length_padded {width n : Nat} (positive : 0 < width) (small : n < 10 ^ width) :
    (padded width n).length = width := by
  have fits := (Nat.length_toDigits_le_iff (by decide) positive).mpr small
  simp [padded, Nat.sub_add_cancel fits]

theorem digitsValue_padded (width n : Nat) : digitsValue (padded width n) = n := by
  simp [digitsValue, padded, Nat.ofDigitChars_append, Nat.ofDigitChars_replicate_zero,
    Nat.ofDigitChars_ten_toDigits]

theorem cutDigits_run {digits : List Char} (made : MadeOf Char.isDigit digits)
    (rest : List Char) : cutDigits digits.length (digits ++ rest) = (digits, rest) := by
  induction digits with
  | nil => cases rest <;> rfl
  | cons digit others ih =>
      obtain ⟨numeric, made⟩ := List.forall_mem_cons.mp made
      simp [cutDigits, numeric, ih made]

section

variable {width n : Nat} (positive : 0 < width) (small : n < 10 ^ width) (rest : List Char)

include positive small

theorem cutDigits_padded : cutDigits width (padded width n ++ rest) = (padded width n, rest) := by
  have cut := cutDigits_run (isDigit_padded width n) rest
  rwa [length_padded positive small] at cut

theorem cutNumber?_padded : cutNumber? width (padded width n ++ rest) = some (n, rest) := by
  simp [cutNumber?, cutDigits_padded positive small, length_padded positive small,
    digitsValue_padded]

end

/-! ## Digits of a length -/

theorem ofDigitChars_lt {digits : List Char} (made : MadeOf Char.isDigit digits) (start : Nat) :
    Nat.ofDigitChars 10 digits start < (start + 1) * 10 ^ digits.length := by
  induction digits generalizing start with
  | nil => simp
  | cons c rest ih =>
      obtain ⟨digit, made⟩ := List.forall_mem_cons.mp made
      have bounds := Sql.bounds_of_digit digit
      rw [Nat.ofDigitChars_cons, List.length_cons, Nat.pow_succ, Nat.mul_comm (10 ^ _),
        ← Nat.mul_assoc]
      refine Nat.lt_of_lt_of_le (ih made _) (Nat.mul_le_mul_right _ ?_)
      change 10 * start + (c.toNat - 48) + 1 ≤ _
      omega

theorem digitsValue_lt {digits : List Char} (made : MadeOf Char.isDigit digits) :
    digitsValue digits < 10 ^ digits.length := by
  simpa [digitsValue] using ofDigitChars_lt made 0

theorem isDigit_cutDigits (count : Nat) (text : List Char) :
    MadeOf Char.isDigit (cutDigits count text).1 := by
  fun_induction cutDigits count text with
  | case1 => exact List.forall_mem_nil _
  | case2 => exact List.forall_mem_nil _
  | case3 count c rest digit ih => exact List.forall_mem_cons.mpr ⟨digit, ih⟩
  | case4 => exact List.forall_mem_nil _

theorem length_cutDigits_lt {digits : List Char} (broken : ¬MadeOf Char.isDigit digits)
    (rest : List Char) : (cutDigits digits.length (digits ++ rest)).1.length < digits.length := by
  induction digits with
  | nil => exact absurd (List.forall_mem_nil _) broken
  | cons c others ih =>
      by_cases digit : c.isDigit = true
      · have later : ¬MadeOf Char.isDigit others := fun made =>
          broken (List.forall_mem_cons.mpr ⟨digit, made⟩)
        simpa [cutDigits, digit] using ih later
      · simp [cutDigits, digit]

/-- As many characters as a number needs are cut off if they are digits. -/
theorem bind_cutNumber?_eq_some_iff {α : Type} {count : Nat} {digits : List Char}
    (long : digits.length = count) {rest : List Char} {next : Nat × List Char → Option α} {a : α} :
    (cutNumber? count (digits ++ rest)).bind next = some a ↔
      MadeOf Char.isDigit digits ∧ next (digitsValue digits, rest) = some a := by
  subst long
  unfold cutNumber?
  by_cases made : MadeOf Char.isDigit digits
  · simp [cutDigits_run made, made]
  · have short := length_cutDigits_lt made rest
    simp [made, Nat.ne_of_lt short]

theorem cutChar?_self (c : Char) (rest : List Char) : cutChar? c (c :: rest) = some rest :=
  if_pos rfl

theorem cutChar?_eq_some_iff {c : Char} {text rest : List Char} :
    cutChar? c text = some rest ↔ text = c :: rest := by
  cases text with
  | nil => exact ⟨fun cut => (nomatch cut), fun same => (nomatch same)⟩
  | cons first others => simp [cutChar?]

end RelationQuery.Text
