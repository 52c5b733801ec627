import RelationQuery.Binary.Shortest
import RelationQuery.Proofs.RoundingOrder

/-!
# The size of the fewest digits

The digits that are found for a number are not zero, at most eighteen, and no greater than the upper
end of the interval that rounds to the number.
-/

namespace RelationQuery.Binary

/-! ## Digits and powers of ten -/

theorem length_toDigits_pos (n : Nat) : 0 < (Nat.toDigits 10 n).length :=
  List.length_pos_iff.mpr Nat.toDigits_ne_nil

theorem lt_pow_toDigits (n : Nat) : n < 10 ^ (Nat.toDigits 10 n).length :=
  (Nat.length_toDigits_le_iff (by decide) (length_toDigits_pos n)).mp (Nat.le_refl _)

theorem pow_le_of_toDigits {n : Nat} (filled : n ≠ 0) :
    10 ^ ((Nat.toDigits 10 n).length - 1) ≤ n := by
  have positive := length_toDigits_pos n
  by_cases single : (Nat.toDigits 10 n).length = 1
  · rw [single]
    exact Nat.pos_of_ne_zero filled
  · have shorter := (Nat.length_toDigits_le_iff (b := 10) (n := n)
      (k := (Nat.toDigits 10 n).length - 1) (by decide) (by omega)).not
    exact Nat.le_of_not_lt (shorter.mp (by omega))

theorem floor_bounds (num : Nat) {den : Nat} (positive : 0 < den) :
    ((num / den : Nat) : ℚ) ≤ (num : ℚ) / den ∧ (num : ℚ) / den < ((num / den : Nat) : ℚ) + 1 := by
  have cast : (0 : ℚ) < den := by exact_mod_cast positive
  rw [le_div_iff₀ cast, div_lt_iff₀ cast]
  constructor
  · exact_mod_cast Nat.div_mul_le_self num den
  · rw [mul_comm]
    exact_mod_cast Nat.lt_mul_div_succ num positive

/-- A quotient has as many digits before its point as its whole part. -/
theorem quotient_bounds {num den : Nat} (positive : 0 < den) (large : den ≤ num) :
    (10 : ℚ) ^ (((Nat.toDigits 10 (num / den)).length : Int) - 1) ≤ (num : ℚ) / den ∧
      (num : ℚ) / den < 10 ^ ((Nat.toDigits 10 (num / den)).length : Int) := by
  have low := pow_le_of_toDigits (Nat.ne_of_gt (Nat.div_pos large positive))
  have high := lt_pow_toDigits (num / den)
  obtain ⟨floor, next⟩ := floor_bounds num positive
  have filled := length_toDigits_pos (num / den)
  generalize (Nat.toDigits 10 (num / den)).length = length at *
  obtain ⟨places, rfl⟩ : ∃ places, length = places + 1 := ⟨length - 1, by omega⟩
  constructor
  · rw [Nat.cast_succ, add_sub_cancel_right, zpow_natCast]
    exact le_trans (by exact_mod_cast low) floor
  · rw [zpow_natCast]
    exact next.trans_le (by exact_mod_cast high)

def DecimalDigits.value (number : DecimalDigits) : ℚ := number.digits * 10 ^ number.exponent

theorem DecimalDigits.value_strip (number : DecimalDigits) : number.strip.value = number.value := by
  fun_induction DecimalDigits.strip number with
  | case1 number divisible ih =>
      rw [ih]
      have whole : number.digits = number.digits / 10 * 10 :=
        (Nat.div_mul_cancel (Nat.dvd_of_mod_eq_zero divisible.2)).symm
      have cast : (number.digits : ℚ) = ((number.digits / 10 : Nat) : ℚ) * 10 := by
        exact_mod_cast whole
      unfold value
      rw [cast, zpow_add_one₀ (by norm_num)]
      ring
  | case2 => rfl

theorem DecimalDigits.strip_le (number : DecimalDigits) :
    number.strip.digits ≤ number.digits := by
  fun_induction DecimalDigits.strip number with
  | case1 number divisible ih => exact ih.trans (Nat.div_le_self _ _)
  | case2 => exact Nat.le_refl _

theorem DecimalDigits.strip_ne_zero {number : DecimalDigits} (filled : number.digits ≠ 0) :
    number.strip.digits ≠ 0 := by
  fun_induction DecimalDigits.strip number with
  | case1 number divisible ih =>
      apply ih
      have whole := Nat.div_mul_cancel (Nat.dvd_of_mod_eq_zero divisible.2)
      intro none
      dsimp only at none
      omega
  | case2 => exact filled

namespace Neighbourhood

/-! ## The interval -/

structure Sound (near : Neighbourhood) : Prop where
  low : 0 < near.low
  least : near.low ≤ near.value
  most : near.value ≤ near.high
  den : 0 < near.den

def ratio (near : Neighbourhood) : ℚ := near.value / near.den

def top (near : Neighbourhood) : ℚ := near.high / near.den

section

variable {near : Neighbourhood} (sound : near.Sound)

include sound

theorem Sound.value_pos : 0 < near.value := sound.low.trans_le sound.least

theorem Sound.den_pos : (0 : ℚ) < near.den := by exact_mod_cast sound.den

theorem Sound.ratio_pos : 0 < near.ratio :=
  div_pos (by exact_mod_cast sound.value_pos) sound.den_pos

theorem Sound.ratio_le_top : near.ratio ≤ near.top := by
  have den := sound.den_pos
  have most : (near.value : ℚ) ≤ near.high := by exact_mod_cast sound.most
  unfold ratio top
  gcongr

/-- The value has its first digit at the leading exponent. -/
theorem Sound.leading : (10 : ℚ) ^ near.leadingExponent ≤ near.ratio ∧
    near.ratio < 10 ^ (near.leadingExponent + 1) := by
  unfold leadingExponent
  split
  · rename_i large
    rw [sub_add_cancel]
    exact quotient_bounds sound.den large
  · rename_i small
    obtain ⟨low, high⟩ := quotient_bounds sound.value_pos (Nat.le_of_lt (Nat.lt_of_not_le small))
    have filled := length_toDigits_pos (near.den / near.value)
    have inverse : (near.den : ℚ) / near.value = near.ratio⁻¹ := (inv_div _ _).symm
    have positive := sound.ratio_pos
    rw [inverse] at low high
    dsimp only
    generalize (Nat.toDigits 10 (near.den / near.value)).length = length at *
    obtain ⟨places, rfl⟩ : ∃ places, length = places + 1 := ⟨length - 1, by omega⟩
    rw [Nat.add_sub_cancel]
    rw [Nat.cast_succ] at low high
    rw [add_sub_cancel_right, le_inv_comm₀ (by positivity) positive, ← zpow_neg] at low
    rw [inv_lt_comm₀ positive (by positivity), ← zpow_neg] at high
    have exact_iff : near.value * 10 ^ places = near.den ↔ near.ratio = 10 ^ (-(places : Int)) := by
      rw [ratio, div_eq_iff (ne_of_gt sound.den_pos), zpow_neg, zpow_natCast,
        eq_inv_mul_iff_mul_eq₀ (by positivity), mul_comm]
      exact_mod_cast Iff.rfl
    split
    · rename_i same
      have equal := exact_iff.mp same
      refine ⟨equal.ge, equal.trans_lt ?_⟩
      gcongr
      · norm_num
      · omega
    · rename_i differs
      rw [sub_add_cancel]
      refine ⟨?_, low.lt_of_ne (mt exact_iff.mpr differs)⟩
      rw [← neg_add']
      exact high.le

theorem Sound.units (exponent : Int) :
    0 < (near.units exponent).2 ∧
      ((near.units exponent).1 : ℚ) / (near.units exponent).2 = near.ratio / 10 ^ exponent := by
  unfold Neighbourhood.units ratio
  split
  · rename_i whole
    obtain ⟨places, rfl⟩ := Int.eq_ofNat_of_zero_le whole
    refine ⟨Nat.mul_pos sound.den (Nat.pow_pos (by decide)), ?_⟩
    rw [Int.toNat_natCast, zpow_natCast, div_div]
    push_cast
    rfl
  · rename_i fine
    obtain ⟨places, rfl⟩ : ∃ places : Nat, exponent = -places := ⟨(-exponent).toNat, by omega⟩
    refine ⟨sound.den, ?_⟩
    rw [neg_neg, Int.toNat_natCast, zpow_neg, zpow_natCast, div_inv_eq_mul, div_mul_eq_mul_div]
    push_cast
    rfl

omit sound in
/-- Digits that round to the value lie between the ends of the interval, over one denominator. -/
theorem bounds_of_reaches {digits : Nat} {exponent : Int}
    (reached : near.reaches digits exponent = true) :
    near.low * (if 0 ≤ exponent then 1 else 10 ^ (-exponent).toNat) ≤
        digits * (if 0 ≤ exponent then 10 ^ exponent.toNat else 1) * near.den ∧
      digits * (if 0 ≤ exponent then 10 ^ exponent.toNat else 1) * near.den ≤
        near.high * (if 0 ≤ exponent then 1 else 10 ^ (-exponent).toNat) := by
  unfold Neighbourhood.reaches at reached
  dsimp only at reached
  split at reached
  · simpa using reached
  · obtain ⟨below, above⟩ := (Bool.and_eq_true _ _).mp reached
    exact ⟨Nat.le_of_lt (of_decide_eq_true below), Nat.le_of_lt (of_decide_eq_true above)⟩

theorem Sound.ne_zero_of_reaches {digits : Nat} {exponent : Int}
    (reached : near.reaches digits exponent = true) : digits ≠ 0 := by
  rintro rfl
  have least := (bounds_of_reaches reached).1
  have positive : 0 < near.low * (if 0 ≤ exponent then 1 else 10 ^ (-exponent).toNat) := by
    apply Nat.mul_pos sound.low
    split
    · exact Nat.one_pos
    · exact Nat.pow_pos (by decide)
  simp only [Nat.zero_mul] at least
  omega

/-- Digits that round to the value are not above the interval. -/
theorem Sound.le_top_of_reaches {digits : Nat} {exponent : Int}
    (reached : near.reaches digits exponent = true) :
    (digits : ℚ) * 10 ^ exponent ≤ near.top := by
  have most := (bounds_of_reaches reached).2
  unfold top
  rw [le_div_iff₀ sound.den_pos]
  by_cases whole : 0 ≤ exponent
  · obtain ⟨places, rfl⟩ := Int.eq_ofNat_of_zero_le whole
    rw [if_pos whole, if_pos whole, Int.toNat_natCast, Nat.mul_one] at most
    rw [zpow_natCast]
    exact_mod_cast most
  · obtain ⟨places, rfl⟩ : ∃ places : Nat, exponent = -places := ⟨(-exponent).toNat, by omega⟩
    rw [if_neg whole, if_neg whole, neg_neg, Int.toNat_natCast, Nat.mul_one] at most
    rw [zpow_neg, zpow_natCast, mul_right_comm, ← div_eq_mul_inv, div_le_iff₀ (by positivity)]
    exact_mod_cast most

omit sound in
/-- A hit is one of the two neighbours on the grid. -/
theorem hit?_cases {tie : Tie} {exponent : Int} {digits : Nat}
    (hit : near.hit? tie exponent = some digits) :
    near.reaches digits exponent = true ∧
      digits ≤ (near.units exponent).1 / (near.units exponent).2 + 1 := by
  unfold hit? at hit
  dsimp only at hit
  generalize (near.units exponent).1 / (near.units exponent).2 = below at *
  split at hit
  · cases hit
  · rename_i reached _
    cases hit
    exact ⟨reached, Nat.le_succ _⟩
  · rename_i _ reached
    cases hit
    exact ⟨reached, Nat.le_refl _⟩
  · rename_i low high
    have both : ∀ {found : Nat}, found = below ∨ found = below + 1 →
        near.reaches found exponent = true ∧ found ≤ below + 1 := by
      rintro found (rfl | rfl)
      · exact ⟨low, Nat.le_succ _⟩
      · exact ⟨high, Nat.le_refl _⟩
    apply both
    split at hit
    · exact .inl (Option.some.inj hit).symm
    · split at hit
      · exact .inr (Option.some.inj hit).symm
      · split at hit
        · exact .inr (Option.some.inj hit).symm
        · have found := Option.some.inj hit
          omega

/-- What the search gives is on one of its grids, not zero, and within the interval. -/
theorem Sound.search (tie : Tie) (fuel : Nat) {exponent : Int}
    (start : (10 : ℚ) ^ exponent ≤ near.ratio) :
    (near.search tie fuel exponent).digits ≠ 0 ∧
      (near.search tie fuel exponent).value ≤ near.top ∧
      ((near.search tie fuel exponent).digits : ℚ) ≤
        near.ratio / 10 ^ (near.search tie fuel exponent).exponent + 1 ∧
      exponent - fuel ≤ (near.search tie fuel exponent).exponent := by
  induction fuel generalizing exponent with
  | zero =>
      obtain ⟨positive, units⟩ := sound.units exponent
      obtain ⟨floor, next⟩ := floor_bounds (near.units exponent).1 positive
      rw [units] at floor next
      have power : (0 : ℚ) < 10 ^ exponent := by positivity
      refine ⟨?_, ?_, floor.trans (le_add_of_nonneg_right zero_le_one), by simp [Neighbourhood.search]⟩
      · intro none
        rw [Neighbourhood.search] at none
        dsimp only at none
        rw [none, Nat.cast_zero, zero_add, div_lt_iff₀ power, one_mul] at next
        exact absurd start (not_le.mpr next)
      · rw [Neighbourhood.search, DecimalDigits.value]
        dsimp only
        rw [le_div_iff₀ power] at floor
        exact floor.trans sound.ratio_le_top
  | succ fuel ih =>
      rw [Neighbourhood.search]
      split
      · rename_i digits hit
        obtain ⟨reached, next⟩ := hit?_cases hit
        obtain ⟨positive, units⟩ := sound.units exponent
        obtain ⟨floor, -⟩ := floor_bounds (near.units exponent).1 positive
        rw [units] at floor
        refine ⟨sound.ne_zero_of_reaches reached, sound.le_top_of_reaches reached, ?_,
          by dsimp only; omega⟩
        have cast : (digits : ℚ) ≤
            (((near.units exponent).1 / (near.units exponent).2 : Nat) : ℚ) + 1 := by
          exact_mod_cast next
        exact cast.trans (by gcongr)
      · have finer : (10 : ℚ) ^ (exponent - 1) ≤ near.ratio := by
          refine le_trans ?_ start
          gcongr
          · norm_num
          · omega
        obtain ⟨filled, most, digits, grid⟩ := ih finer
        exact ⟨filled, most, digits, by push_cast; omega⟩

end

end Neighbourhood

/-! ## The digits of a number -/

theorem sound_neighbourhood (format : Format) {significand : Nat} (filled : 0 < significand)
    (exponent : Int) : (neighbourhood format significand exponent).Sound := by
  have factor : 0 < if 2 ≤ exponent then 2 ^ (exponent - 2).toNat else 1 := by
    split
    · exact Nat.two_pow_pos _
    · exact Nat.one_pos
  unfold neighbourhood
  dsimp only
  refine ⟨Nat.mul_pos ?_ factor, Nat.mul_le_mul_right _ ?_, Nat.mul_le_mul_right _ ?_, ?_⟩
  · split <;> omega
  · split <;> omega
  · omega
  · dsimp only
    split
    · exact Nat.one_pos
    · exact Nat.two_pow_pos _

theorem top_neighbourhood (format : Format) (significand : Nat) (exponent : Int) :
    (neighbourhood format significand exponent).top =
      ((4 * significand + 2 : Nat) : ℚ) * 2 ^ (exponent - 2) := by
  unfold Neighbourhood.top neighbourhood
  dsimp only
  split
  · rename_i large
    obtain ⟨places, rfl⟩ : ∃ places : Nat, exponent = places + 2 :=
      ⟨(exponent - 2).toNat, by omega⟩
    rw [add_sub_cancel_right, Int.toNat_natCast, zpow_natCast]
    push_cast
    ring
  · rename_i small
    obtain ⟨places, rfl⟩ : ∃ places : Nat, exponent = 2 - places :=
      ⟨(2 - exponent).toNat, by omega⟩
    have power : 2 - (places : Int) - 2 = -places := by omega
    rw [sub_sub_cancel, Int.toNat_natCast, Nat.mul_one, power, zpow_neg, zpow_natCast,
      div_eq_mul_inv]
    push_cast
    rfl

/-- The digits of a number are not zero, at most eighteen, and within the interval of the number. -/
theorem shortest_bounds (format : Format) (tie : Tie) {significand : Nat} (filled : 0 < significand)
    (exponent : Int) :
    (shortest format tie significand exponent).digits ≠ 0 ∧
      (shortest format tie significand exponent).digits ≤ 10 ^ 18 ∧
      (shortest format tie significand exponent).value ≤
        ((4 * significand + 2 : Nat) : ℚ) * 2 ^ (exponent - 2) := by
  have sound := sound_neighbourhood format filled exponent
  obtain ⟨low, high⟩ := sound.leading
  obtain ⟨nonzero, most, digits, grid⟩ := sound.search tie 17 low
  rw [← top_neighbourhood format significand exponent]
  unfold shortest
  dsimp only
  generalize neighbourhood format significand exponent = near at *
  generalize near.search tie 17 near.leadingExponent = found at *
  refine ⟨DecimalDigits.strip_ne_zero nonzero, (found.strip_le).trans ?_,
    found.value_strip.trans_le most⟩
  have power : (0 : ℚ) < 10 ^ found.exponent := by positivity
  have units : near.ratio / 10 ^ found.exponent < 10 ^ (18 : Int) := by
    rw [div_lt_iff₀ power, ← zpow_add₀ (by norm_num)]
    exact high.trans_le (zpow_le_zpow_right₀ (by norm_num) (by omega))
  have bound : (found.digits : ℚ) < ((10 ^ 18 + 1 : Nat) : ℚ) := by
    rw [zpow_ofNat] at units
    push_cast
    linarith
  exact Nat.le_of_lt_succ (by exact_mod_cast bound)

end RelationQuery.Binary
