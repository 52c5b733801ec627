import RelationQuery.Proofs.RoundingOrder
import RelationQuery.Rule.Convert

/-!
# Whole numbers in double precision

Numbers of double precision lie ever further apart: from two to the power of 53 on, not every whole
number is among them. What stands for a whole number is the nearest multiple of the gap around it,
whatever its size; a word of 64 bits takes the nearest word to that.
-/

namespace RelationQuery

/-! ## The nearest number -/

/-- The gap between the numbers of double precision around a whole number, at least one. -/
def spacing (n : Int) : Nat := 2 ^ (n.natAbs.log2 - 52)

/-- What stands for a whole number in double precision: the nearest multiple of the gap, and of two
that are equally near the even one. -/
structure Rounds (n r : Int) : Prop where
  multiple : (spacing n : Int) ∣ r
  near : 2 * (n - r).natAbs ≤ spacing n
  even : 2 * (n - r).natAbs = spacing n → 2 * (spacing n : Int) ∣ r

theorem spacing_pos (n : Int) : 0 < spacing n := Nat.two_pow_pos _

theorem spacing_neg (n : Int) : spacing (-n) = spacing n := by
  rw [spacing, spacing, Int.natAbs_neg]

/-- So many gaps lie between different multiples of the gap. -/
theorem mul_spacing_le {n k : Int} {times : Nat} (many : times ≤ k.natAbs) :
    times * spacing n ≤ ((spacing n : Int) * k).natAbs := by
  rw [Int.natAbs_mul, Int.natAbs_natCast, Nat.mul_comm]
  exact Nat.mul_le_mul_left _ many

namespace Rounds

variable {n r other : Int}

theorem neg (rounds : Rounds n r) : Rounds (-n) (-r) := by
  have mirrored : (-n - -r).natAbs = (n - r).natAbs := by
    rw [← Int.natAbs_neg]
    congr 1
    ring
  refine ⟨?_, ?_, ?_⟩
  · rw [spacing_neg, dvd_neg]
    exact rounds.multiple
  · rw [spacing_neg, mirrored]
    exact rounds.near
  · rw [spacing_neg, mirrored, dvd_neg]
    exact rounds.even

/-- Only one number stands for a whole number. -/
theorem unique (rounds : Rounds n r) (rounds' : Rounds n other) : r = other := by
  obtain ⟨k, rfl⟩ := rounds.multiple
  obtain ⟨k', rfl⟩ := rounds'.multiple
  have positive : (0 : Int) < spacing n := by exact_mod_cast spacing_pos n
  have near := rounds.near
  have near' := rounds'.near
  have apart : (spacing n : Int) * k - spacing n * k' = spacing n * (k - k') := by ring
  by_contra distinct
  have gap : k - k' ≠ 0 := by
    intro none
    exact distinct (by rw [Int.sub_eq_zero.mp none])
  have wide : 1 * spacing n ≤ ((spacing n : Int) * (k - k')).natAbs :=
    mul_spacing_le (Int.natAbs_pos.mpr gap)
  -- Both are half a gap away, and one of two neighbours is odd.
  obtain ⟨e, even⟩ := rounds.even (by omega)
  obtain ⟨e', even'⟩ := rounds'.even (by omega)
  have whole : (spacing n : Int) * (k - k') = spacing n * (2 * (e - e')) := by
    rw [← apart, even, even']
    ring
  have even : k - k' = 2 * (e - e') := Int.eq_of_mul_eq_mul_left positive.ne' whole
  have far : 2 * spacing n ≤ ((spacing n : Int) * (k - k')).natAbs := mul_spacing_le (by omega)
  omega

/-- A multiple of the gap around it stands for itself. -/
theorem eq_self (rounds : Rounds n r) (multiple : (spacing n : Int) ∣ n) : r = n := by
  have positive : (0 : Int) < spacing n := by exact_mod_cast spacing_pos n
  obtain ⟨k, apart⟩ := dvd_sub multiple rounds.multiple
  have near := rounds.near
  obtain rfl : k = 0 := by
    by_contra gap
    have wide : 1 * spacing n ≤ ((spacing n : Int) * k).natAbs :=
      mul_spacing_le (Int.natAbs_pos.mpr gap)
    omega
  rw [mul_zero] at apart
  omega

end Rounds

def roundedSize (v : Nat) : Nat := roundHalfEven v (2 ^ (v.log2 - 52)) * 2 ^ (v.log2 - 52)

theorem rounds_roundedSize (v : Nat) : Rounds v (roundedSize v) := by
  obtain ⟨low, high, up, down⟩ := roundHalfEven_near v (Nat.two_pow_pos (v.log2 - 52))
  have same : spacing v = 2 ^ (v.log2 - 52) := rfl
  have size : roundedSize v = roundHalfEven v (spacing v) * spacing v := rfl
  rw [← same] at low high up down
  rw [mul_comm] at size
  have even (tie : roundHalfEven v (spacing v) % 2 = 0) :
      2 * (spacing (v : Int) : Int) ∣ (roundedSize v : Int) := by
    obtain ⟨half, twice⟩ := Nat.dvd_of_mod_eq_zero tie
    rw [size, twice]
    exact ⟨half, by push_cast; ring⟩
  refine ⟨⟨roundHalfEven v (spacing v), by rw [size]; push_cast; rfl⟩, by omega, fun tie => ?_⟩
  by_cases above : (v : Int) ≤ roundedSize v
  · exact even (up (by omega))
  · exact even (down (by omega))

/-- Rounding stays above the power of two that is below. -/
theorem two_pow_log2_le_roundedSize {v : Nat} (filled : v ≠ 0) : 2 ^ v.log2 ≤ roundedSize v := by
  have low := Nat.log2_self_le filled
  unfold roundedSize
  by_cases wide : 52 ≤ v.log2
  · have split : 2 ^ v.log2 = 2 ^ 52 * 2 ^ (v.log2 - 52) := by
      rw [← Nat.pow_add]
      congr 1
      omega
    rw [split]
    apply Nat.mul_le_mul_right
    rw [← roundHalfEven_one (2 ^ 52)]
    apply roundHalfEven_mono Nat.one_pos (Nat.two_pow_pos _)
    omega
  · have none : v.log2 - 52 = 0 := by omega
    rw [none, Nat.pow_zero, Nat.mul_one, roundHalfEven_one]
    exact low

/-! ## The word nearest to a number -/

def saturate (n : Int) : Int := max (-2 ^ 63) (min n (2 ^ 63 - 1))

theorem toInt_ofInt_saturate (n : Int) : (Int64.ofInt (saturate n)).toInt = saturate n := by
  unfold saturate
  exact Int64.toInt_ofInt_of_le (by omega) (by omega)

/-- Which whole numbers come through double precision into a word unchanged. -/
theorem Rounds.saturate_eq_iff {n r : Int} (rounds : Rounds n r) : saturate r = n ↔
    (-2 ^ 63 ≤ n ∧ n < 2 ^ 63) ∧ ((spacing n : Int) ∣ n ∨ n = 2 ^ 63 - 1) := by
  unfold saturate
  constructor
  · intro same
    refine ⟨by omega, ?_⟩
    by_cases inside : -2 ^ 63 ≤ r ∧ r < 2 ^ 63
    · have kept : r = n := by omega
      exact .inl (kept ▸ rounds.multiple)
    · by_cases below : r < -2 ^ 63
      · have least : n = -2 ^ 63 := by omega
        rw [least]
        exact .inl (by decide)
      · exact .inr (by omega)
  · rintro ⟨range, multiple | greatest⟩
    · rw [rounds.eq_self multiple]
      omega
    · subst greatest
      have gap : spacing (2 ^ 63 - 1) = 1024 := by decide
      obtain ⟨k, rfl⟩ := rounds.multiple
      have near := rounds.near
      rw [gap] at near ⊢
      omega

/-! ## Through double precision -/

namespace Binary

variable {format : Format}

theorem floorLog2_one {v : Nat} (filled : v ≠ 0) : floorLog2 v 1 = v.log2 := by
  have estimate : (v.log2 : Int) - Nat.log2 1 = v.log2 := by
    rw [show Nat.log2 1 = 0 by decide]
    rfl
  unfold floorLog2
  rw [estimate]
  dsimp only
  rw [if_pos (Int.natCast_nonneg _), Int.toNat_natCast, Nat.one_mul,
    decide_eq_true (Nat.log2_self_le filled)]
  rfl

/-- A magnitude by its grid and a significand on it, which may be the first of the next grid. -/
theorem magnitudeValue_grid (grid : Nat) {significand : Nat}
    (low : 2 ^ format.fractionBits ≤ significand)
    (high : significand ≤ 2 ^ (format.fractionBits + 1)) :
    magnitudeValue format (grid * 2 ^ format.fractionBits + significand) =
      (significand : ℚ) * 2 ^ (format.minExponent + grid) := by
  have power := Nat.two_pow_pos format.fractionBits
  have two : (2 : ℚ) ≠ 0 := by norm_num
  rw [Nat.pow_succ] at high
  obtain ⟨rest, rfl⟩ := Nat.exists_eq_add_of_le low
  unfold magnitudeValue
  by_cases last : rest = 2 ^ format.fractionBits
  · subst last
    have whole : grid * 2 ^ format.fractionBits + (2 ^ format.fractionBits + 2 ^ format.fractionBits) =
        2 ^ format.fractionBits * (grid + 2) := by ring
    rw [whole, Nat.mul_div_cancel_left _ power, Nat.mul_mod_right, if_neg (by omega),
      Nat.zero_add, show format.minExponent + ((grid + 2 : Nat) : Int) - 1 =
        format.minExponent + grid + 1 by push_cast; ring, zpow_add_one₀ two]
    push_cast
    ring
  · have whole : grid * 2 ^ format.fractionBits + (2 ^ format.fractionBits + rest) =
        rest + 2 ^ format.fractionBits * (grid + 1) := by ring
    have small : rest < 2 ^ format.fractionBits := by omega
    rw [whole, Nat.add_mul_div_left _ _ power, Nat.div_eq_of_lt small, Nat.add_mul_mod_self_left,
      Nat.mod_eq_of_lt small, if_neg (by omega), Nat.zero_add,
      show format.minExponent + ((grid + 1 : Nat) : Int) - 1 = format.minExponent + grid by
        push_cast; ring, Nat.add_comm rest]

/-- A whole number on the grid around it. -/
theorem exists_grid {v : Nat} (filled : v ≠ 0) : ∃ grid significand : Nat,
    2 ^ 52 ≤ significand ∧ significand ≤ 2 ^ 53 ∧ grid = v.log2 + 1022 ∧
      nearestMagnitude .double v 1 =
        min (grid * 2 ^ 52 + significand) Format.double.infinityMagnitude ∧
      (significand : ℚ) * 2 ^ (Format.double.minExponent + grid) = roundedSize v := by
  have low := Nat.log2_self_le filled
  have high : v < 2 ^ (v.log2 + 1) := Nat.lt_log2_self
  have least : Format.double.minExponent = -1074 := by decide
  have grid : gridExponent .double v 1 = v.log2 - 52 := by
    rw [gridExponent, floorLog2_one filled, least]
    change max ((v.log2 : Int) - 52) (-1074) = _
    omega
  unfold nearestMagnitude roundedSize
  rw [if_neg filled]
  dsimp only
  rw [grid, least, show ((v.log2 : Int) - 52 - -1074).toNat = v.log2 + 1022 by omega]
  by_cases wide : 52 ≤ v.log2
  · obtain ⟨places, more⟩ := Nat.exists_eq_add_of_le wide
    have back : v.log2 - 52 = places := by omega
    rw [if_pos (by omega), show ((v.log2 : Int) - 52).toNat = places by omega, Nat.one_mul, back]
    refine ⟨_, _, ?_, ?_, rfl, rfl, ?_⟩
    · rw [← roundHalfEven_one (2 ^ 52)]
      apply roundHalfEven_mono Nat.one_pos (Nat.two_pow_pos _)
      rwa [Nat.mul_one, ← Nat.pow_add, ← more]
    · rw [← roundHalfEven_one (2 ^ 53)]
      apply roundHalfEven_mono (Nat.two_pow_pos _) Nat.one_pos
      rw [Nat.mul_one, ← Nat.pow_add, show 53 + places = v.log2 + 1 by omega]
      exact high.le
    · rw [show -1074 + ((v.log2 + 1022 : Nat) : Int) = places by omega, zpow_natCast]
      push_cast
      rfl
  · obtain ⟨places, fewer⟩ : ∃ places, places + v.log2 = 52 := ⟨52 - v.log2, by omega⟩
    have back : v.log2 - 52 = 0 := by omega
    rw [if_neg (by omega), show (-((v.log2 : Int) - 52)).toNat = places by omega, back,
      Nat.pow_zero, Nat.mul_one, roundHalfEven_one, roundHalfEven_one]
    refine ⟨_, _, ?_, ?_, rfl, rfl, ?_⟩
    · calc 2 ^ 52 = 2 ^ v.log2 * 2 ^ places := by rw [← Nat.pow_add, Nat.add_comm, fewer]
        _ ≤ v * 2 ^ places := Nat.mul_le_mul_right _ low
    · calc v * 2 ^ places ≤ 2 ^ (v.log2 + 1) * 2 ^ places := Nat.mul_le_mul_right _ high.le
        _ = 2 ^ 53 := by
          rw [← Nat.pow_add]
          congr 1
          omega
    · rw [show -1074 + ((v.log2 + 1022 : Nat) : Int) = -(places : Int) by omega, zpow_neg,
        zpow_natCast]
      push_cast
      field_simp

theorem truncate_of_toRat {x : Binary format} {n : Int} (value : x.toRat = n) : x.truncate = n := by
  rw [truncate, value, Rat.num_intCast, Rat.den_intCast]
  exact Int.tdiv_one n

theorem datum_of_infinite {x : Binary format} (top : x.magnitude = format.infinityMagnitude) :
    x.datum = .infinite x.negative := by
  unfold datum
  rw [top, Format.infinityMagnitude, Nat.mul_div_cancel _ (Nat.two_pow_pos _), Nat.mul_mod_left]
  simp

end Binary

def signed (negative : Bool) (size : Nat) : Int := if negative then -(size : Int) else size

theorem rounds_signed (negative : Bool) (v : Nat) :
    Rounds (signed negative v) (signed negative (roundedSize v)) := by
  cases negative with
  | false => exact rounds_roundedSize v
  | true => exact (rounds_roundedSize v).neg

theorem saturate_of_large {size : Nat} (large : 2 ^ 63 ≤ size) (negative : Bool) :
    Int64.ofInt (saturate (signed negative size)) =
      if negative then Int64.minValue else Int64.maxValue := by
  cases negative with
  | false =>
      have greatest : saturate (signed false size) = 2 ^ 63 - 1 := by
        simp only [saturate, signed, Bool.false_eq_true, if_false]
        omega
      rw [greatest]
      decide
  | true =>
      have least : saturate (signed true size) = -2 ^ 63 := by
        simp only [saturate, signed, if_true]
        omega
      rw [least]
      decide

theorem two_pow_le_roundedSize {v : Nat} (large : 2 ^ 63 ≤ v) : 2 ^ 63 ≤ roundedSize v := by
  have filled : v ≠ 0 := by omega
  have wide : 63 ≤ v.log2 := (Nat.le_log2 filled).mpr large
  exact (Nat.pow_le_pow_right (by decide) wide).trans (two_pow_log2_le_roundedSize filled)

/-- The nearest number to a whole one is cut to the word nearest to what stands for it. -/
theorem truncateInt64_ofRatio (negative : Bool) (v : Nat) :
    truncateInt64 (Binary.ofRatio .double negative v 1) =
      .ofInt (saturate (signed negative (roundedSize v))) := by
  by_cases filled : v = 0
  · subst filled
    cases negative <;> decide +kernel
  obtain ⟨grid, significand, low, high, width, nearest, value⟩ := Binary.exists_grid filled
  have bound := @Binary.bound_nearestMagnitude .double v 1
  have magnitude : (Binary.ofRatio .double negative v 1).magnitude =
      Binary.nearestMagnitude .double v 1 := Binary.magnitude_ofMagnitude bound _
  have sign : (Binary.ofRatio .double negative v 1).negative = negative :=
    Binary.negative_ofMagnitude bound _
  generalize Binary.ofRatio .double negative v 1 = x at magnitude sign ⊢
  rw [nearest] at magnitude
  unfold truncateInt64
  by_cases below : grid * 2 ^ 52 + significand < Format.double.infinityMagnitude
  · rw [Nat.min_eq_left below.le] at magnitude
    have finite : x.isFinite = true := decide_eq_true (magnitude.trans_lt below)
    have whole : x.toRat = (signed negative (roundedSize v) : Int) := by
      rw [Binary.toRat_of_isFinite finite, magnitude, sign]
      change _ * Binary.magnitudeValue .double (grid * 2 ^ Format.double.fractionBits + _) = _
      rw [Binary.magnitudeValue_grid grid low high, value]
      cases negative with
      | false => simp [signed]
      | true => simp [signed]
    obtain ⟨_, _, _, parts⟩ := x.isFinite_iff.mp finite
    rw [parts]
    dsimp only
    rw [Binary.truncate_of_toRat whole]
    rfl
  · rw [Nat.min_eq_right (by omega)] at magnitude
    have wide : 63 ≤ v.log2 := by
      have top : Format.double.infinityMagnitude = 2047 * 2 ^ 52 := by decide
      omega
    have large := (Nat.pow_le_pow_right (by decide) wide).trans (Nat.log2_self_le filled)
    rw [Binary.datum_of_infinite magnitude, sign, saturate_of_large (two_pow_le_roundedSize large)]

end RelationQuery
