import Mathlib.Algebra.Order.Field.Power
import Mathlib.Tactic.FieldSimp
import Mathlib.Tactic.Linarith
import Mathlib.Tactic.NormNum
import Mathlib.Tactic.Ring
import RelationQuery.Binary.Format

/-!
# Rounding keeps the order

Of two quotients the greater one is not rounded to the smaller number: halves go to the even
neighbour, the grid becomes coarser at powers of two only, and these lie on both grids.
-/

namespace RelationQuery

/-! ## Whole numbers -/

theorem roundHalfEven_one (n : Nat) : roundHalfEven n 1 = n := by
  simp [roundHalfEven, Nat.mod_one]

/-- A rounded quotient is at most a half away, and even where it is exactly a half away. -/
theorem roundHalfEven_near (num : Nat) {den : Nat} (positive : 0 < den) :
    2 * (den * roundHalfEven num den) ≤ 2 * num + den ∧
      2 * num ≤ 2 * (den * roundHalfEven num den) + den ∧
      (2 * (den * roundHalfEven num den) = 2 * num + den → roundHalfEven num den % 2 = 0) ∧
      (2 * num = 2 * (den * roundHalfEven num den) + den → roundHalfEven num den % 2 = 0) := by
  have split := Nat.div_add_mod num den
  have small := Nat.mod_lt num positive
  unfold roundHalfEven
  dsimp only
  generalize num / den = quotient at split
  generalize num % den = rest at split small
  split_ifs
  · refine ⟨?_, ?_, ?_, ?_⟩ <;> omega
  · have next : den * (quotient + 1) = den * quotient + den := Nat.mul_succ den quotient
    refine ⟨?_, ?_, ?_, ?_⟩ <;> omega
  · rcases Nat.mod_two_eq_zero_or_one quotient with even | odd
    · rw [even, Nat.add_zero]
      refine ⟨?_, ?_, ?_, ?_⟩ <;> omega
    · have next : den * (quotient + 1) = den * quotient + den := Nat.mul_succ den quotient
      rw [odd]
      refine ⟨?_, ?_, ?_, ?_⟩ <;> omega

theorem roundHalfEven_mono {num den num' den' : Nat} (positive : 0 < den) (positive' : 0 < den')
    (least : num * den' ≤ num' * den) : roundHalfEven num den ≤ roundHalfEven num' den' := by
  obtain ⟨low, -, even, -⟩ := roundHalfEven_near num positive
  obtain ⟨-, high, -, even'⟩ := roundHalfEven_near num' positive'
  generalize roundHalfEven num den = r at *
  generalize roundHalfEven num' den' = r' at *
  by_contra above
  obtain ⟨gap, rfl⟩ : ∃ gap, r = r' + 1 + gap := ⟨r - (r' + 1), by omega⟩
  -- Only a half between the two could be rounded in both ways, and then both would be even.
  have wide := Nat.mul_le_mul_right den' low
  have narrow := Nat.mul_le_mul_right den high
  have left : 2 * (den * (r' + 1 + gap)) * den' =
      2 * (den * den' * r') + 2 * (den * den') + 2 * (den * den' * gap) := by ring
  have right : (2 * (den' * r') + den') * den = 2 * (den * den' * r') + den * den' := by ring
  have middle : (2 * num + den) * den' = 2 * (num * den') + den * den' := by ring
  have middle' : 2 * num' * den = 2 * (num' * den) := by ring
  have none : den * den' * gap = 0 := by omega
  have product : 0 < den * den' := Nat.mul_pos positive positive'
  obtain rfl : gap = 0 := by
    rcases Nat.mul_eq_zero.mp none with absurd | gap
    · omega
    · exact gap
  have up : 2 * (den * (r' + 1 + 0)) = 2 * num + den :=
    Nat.eq_of_mul_eq_mul_right positive' (by omega)
  have down : 2 * num' = 2 * (den' * r') + den' :=
    Nat.eq_of_mul_eq_mul_right positive (by omega)
  have one := even up
  have other := even' down
  omega

/-! ## The power of two below a quotient -/

/-- A power of two is compared with a quotient in whole numbers. -/
theorem two_zpow_le_div_iff (num : Nat) {den : Nat} (broken : den ≠ 0) (exponent : Int) :
    (if 0 ≤ exponent then decide (den * 2 ^ exponent.toNat ≤ num)
      else decide (den ≤ num * 2 ^ (-exponent).toNat)) = true ↔
        (2 : ℚ) ^ exponent ≤ (num : ℚ) / den := by
  have positive : (0 : ℚ) < den := by exact_mod_cast Nat.pos_of_ne_zero broken
  rw [le_div_iff₀ positive]
  split
  · rename_i whole
    obtain ⟨places, rfl⟩ := Int.eq_ofNat_of_zero_le whole
    rw [decide_eq_true_iff, Int.toNat_natCast, zpow_natCast, mul_comm]
    exact_mod_cast Iff.rfl
  · rename_i broken
    obtain ⟨places, rfl⟩ : ∃ places : Nat, exponent = -places := ⟨(-exponent).toNat, by omega⟩
    have power : (0 : ℚ) < 2 ^ places := by positivity
    rw [decide_eq_true_iff, neg_neg, Int.toNat_natCast, zpow_neg, zpow_natCast,
      inv_mul_le_iff₀ power, mul_comm (2 ^ places : ℚ)]
    exact_mod_cast Iff.rfl

theorem log2_bounds {n : Nat} (filled : n ≠ 0) :
    (2 : ℚ) ^ (Nat.log2 n : ℤ) ≤ n ∧ (n : ℚ) < 2 ^ (Nat.log2 n + 1 : ℤ) := by
  rw [← Nat.cast_succ, zpow_natCast, zpow_natCast]
  constructor
  · exact_mod_cast Nat.log2_self_le filled
  · exact_mod_cast Nat.lt_log2_self

/-- The exponent of a quotient: two to its power is at most the quotient, and two to the next power
is more. -/
theorem floorLog2_spec {num den : Nat} (filled : num ≠ 0) (broken : den ≠ 0) :
    (2 : ℚ) ^ floorLog2 num den ≤ (num : ℚ) / den ∧
      (num : ℚ) / den < 2 ^ (floorLog2 num den + 1) := by
  have positive : (0 : ℚ) < den := by exact_mod_cast Nat.pos_of_ne_zero broken
  have two : (2 : ℚ) ≠ 0 := by norm_num
  obtain ⟨numLow, numHigh⟩ := log2_bounds filled
  obtain ⟨denLow, denHigh⟩ := log2_bounds broken
  have above : (num : ℚ) / den < 2 ^ ((Nat.log2 num : ℤ) - Nat.log2 den + 1) := by
    rw [div_lt_iff₀ positive]
    calc (num : ℚ) < 2 ^ (Nat.log2 num + 1 : ℤ) := numHigh
      _ = 2 ^ ((Nat.log2 num : ℤ) - Nat.log2 den + 1) * 2 ^ (Nat.log2 den : ℤ) := by
        rw [← zpow_add₀ two]
        congr 1
        ring
      _ ≤ 2 ^ ((Nat.log2 num : ℤ) - Nat.log2 den + 1) * den := by gcongr
  have below : (2 : ℚ) ^ ((Nat.log2 num : ℤ) - Nat.log2 den - 1) ≤ num / den := by
    rw [le_div_iff₀ positive]
    calc (2 : ℚ) ^ ((Nat.log2 num : ℤ) - Nat.log2 den - 1) * den
        ≤ 2 ^ ((Nat.log2 num : ℤ) - Nat.log2 den - 1) * 2 ^ (Nat.log2 den + 1 : ℤ) := by
          gcongr
      _ = 2 ^ (Nat.log2 num : ℤ) := by
        rw [← zpow_add₀ two]
        congr 1
        ring
      _ ≤ num := numLow
  have reached := two_zpow_le_div_iff num broken ((Nat.log2 num : ℤ) - Nat.log2 den)
  unfold floorLog2
  dsimp only
  by_cases here : (2 : ℚ) ^ ((Nat.log2 num : ℤ) - Nat.log2 den) ≤ (num : ℚ) / den
  · rw [if_pos (reached.mpr here)]
    exact ⟨here, above⟩
  · rw [if_neg (mt reached.mp here), sub_add_cancel]
    exact ⟨below, not_le.mp here⟩

/-! ## Values -/

theorem scaleByTwo_eq (significand exponent : Int) :
    scaleByTwo significand exponent = (significand : ℚ) * 2 ^ exponent := by
  unfold scaleByTwo
  split
  · rename_i whole
    obtain ⟨places, rfl⟩ := Int.eq_ofNat_of_zero_le whole
    simp
  · rename_i broken
    obtain ⟨places, rfl⟩ : ∃ places : Nat, exponent = -places :=
      ⟨(-exponent).toNat, by omega⟩
    rw [Rat.mkRat_eq_div]
    simp [div_eq_mul_inv]

namespace Binary

variable {format : Format}

theorem magnitude_lt (x : Binary format) :
    x.magnitude < 2 ^ format.exponentBits * 2 ^ format.fractionBits := by
  rw [← Nat.pow_add]
  exact Nat.mod_lt _ (Nat.two_pow_pos _)

/-- The numbers below infinity are those with a significand. -/
theorem isFinite_iff (x : Binary format) : x.isFinite = true ↔
    ∃ negative significand exponent, x.datum = .finite negative significand exponent := by
  have field : x.magnitude / 2 ^ format.fractionBits < 2 ^ format.exponentBits :=
    (Nat.div_lt_iff_lt_mul (Nat.two_pow_pos _)).mpr x.magnitude_lt
  have below : x.isFinite = true ↔
      x.magnitude / 2 ^ format.fractionBits < 2 ^ format.exponentBits - 1 := by
    rw [Nat.div_lt_iff_lt_mul (Nat.two_pow_pos _)]
    exact decide_eq_true_iff
  rw [below]
  unfold datum
  dsimp only
  split
  · rename_i top
    refine ⟨fun less => absurd top (Nat.ne_of_lt less), ?_⟩
    rintro ⟨negative, significand, exponent, same⟩
    split at same <;> cases same
  · rename_i other
    refine ⟨fun _ => ?_, fun _ => by omega⟩
    split
    · exact ⟨_, _, _, rfl⟩
    · exact ⟨_, _, _, rfl⟩

theorem toRat_of_finite {x : Binary format} {negative : Bool} {significand : Nat} {exponent : Int}
    (finite : x.datum = .finite negative significand exponent) :
    x.toRat = (if negative then -1 else 1) * (significand : ℚ) * 2 ^ exponent := by
  unfold toRat
  rw [finite]
  dsimp only
  rw [scaleByTwo_eq]
  cases negative with
  | false => simp
  | true => simp

/-! ## The nearest number -/

/-- The quotient in units of the grid around it. -/
theorem exists_units (format : Format) {num den : Nat} (filled : num ≠ 0) (broken : den ≠ 0) :
    ∃ n d : Nat, 0 < d ∧
      (n : ℚ) / d = (num : ℚ) / den / 2 ^ gridExponent format num den ∧
      nearestMagnitude format num den =
        min ((gridExponent format num den - format.minExponent).toNat * 2 ^ format.fractionBits +
          roundHalfEven n d) format.infinityMagnitude := by
  have positive := Nat.pos_of_ne_zero broken
  unfold nearestMagnitude
  rw [if_neg filled]
  dsimp only
  generalize gridExponent format num den = exponent
  split
  · rename_i whole
    obtain ⟨places, rfl⟩ := Int.eq_ofNat_of_zero_le whole
    refine ⟨_, _, Nat.mul_pos positive (Nat.two_pow_pos _), ?_, rfl⟩
    rw [Int.toNat_natCast, zpow_natCast, div_div]
    push_cast
    rfl
  · rename_i fine
    obtain ⟨places, rfl⟩ : ∃ places : Nat, exponent = -places := ⟨(-exponent).toNat, by omega⟩
    refine ⟨_, _, positive, ?_, rfl⟩
    rw [neg_neg, Int.toNat_natCast, zpow_neg, zpow_natCast, div_inv_eq_mul, div_mul_eq_mul_div]
    push_cast
    rfl

theorem roundHalfEven_le_of_div_le {n d bound : Nat} (positive : 0 < d)
    (most : (n : ℚ) / d ≤ bound) : roundHalfEven n d ≤ bound := by
  rw [← roundHalfEven_one bound]
  apply roundHalfEven_mono positive Nat.one_pos
  rw [div_le_iff₀ (by exact_mod_cast positive)] at most
  exact_mod_cast (mul_one (n : ℚ)).trans_le most

theorem le_roundHalfEven_of_le_div {n d bound : Nat} (positive : 0 < d)
    (least : (bound : ℚ) ≤ (n : ℚ) / d) : bound ≤ roundHalfEven n d := by
  rw [← roundHalfEven_one bound]
  apply roundHalfEven_mono Nat.one_pos positive
  rw [le_div_iff₀ (by exact_mod_cast positive)] at least
  exact_mod_cast least.trans_eq (mul_one (n : ℚ)).symm

/-- On its grid a quotient has at most one bit more than the fraction. -/
theorem div_grid_le {num den : Nat} (filled : num ≠ 0) (broken : den ≠ 0) :
    (num : ℚ) / den / 2 ^ gridExponent format num den ≤
      ((2 ^ (format.fractionBits + 1) : Nat) : ℚ) := by
  have power : (0 : ℚ) < 2 ^ gridExponent format num den := by positivity
  have coarse : floorLog2 num den + 1 ≤
      (format.fractionBits + 1 : Nat) + gridExponent format num den := by
    unfold gridExponent
    omega
  rw [div_le_iff₀ power]
  calc (num : ℚ) / den ≤ 2 ^ (floorLog2 num den + 1) := (floorLog2_spec filled broken).2.le
    _ ≤ 2 ^ ((format.fractionBits + 1 : Nat) + gridExponent format num den) := by
      gcongr
      norm_num
    _ = ((2 ^ (format.fractionBits + 1) : Nat) : ℚ) * 2 ^ gridExponent format num den := by
      rw [zpow_add₀ (by norm_num), zpow_natCast]
      push_cast
      rfl

/-- On a grid that is not the finest, a quotient has all bits of the fraction and one more. -/
theorem le_div_grid {num den : Nat} (filled : num ≠ 0) (broken : den ≠ 0)
    (coarse : format.minExponent < gridExponent format num den) :
    ((2 ^ format.fractionBits : Nat) : ℚ) ≤
      (num : ℚ) / den / 2 ^ gridExponent format num den := by
  have power : (0 : ℚ) < 2 ^ gridExponent format num den := by positivity
  have exact : floorLog2 num den = format.fractionBits + gridExponent format num den := by
    unfold gridExponent at coarse ⊢
    omega
  rw [le_div_iff₀ power]
  calc ((2 ^ format.fractionBits : Nat) : ℚ) * 2 ^ gridExponent format num den
      = 2 ^ floorLog2 num den := by
        rw [exact, zpow_add₀ (by norm_num), zpow_natCast]
        push_cast
        rfl
    _ ≤ (num : ℚ) / den := (floorLog2_spec filled broken).1

theorem gridExponent_mono (format : Format) {num den num' den' : Nat} (filled : num ≠ 0) (broken : den ≠ 0)
    (filled' : num' ≠ 0) (broken' : den' ≠ 0) (least : (num : ℚ) / den ≤ (num' : ℚ) / den') :
    gridExponent format num den ≤ gridExponent format num' den' := by
  have between : (2 : ℚ) ^ floorLog2 num den < 2 ^ (floorLog2 num' den' + 1) :=
    ((floorLog2_spec filled broken).1.trans least).trans_lt (floorLog2_spec filled' broken').2
  have exponents := (zpow_lt_zpow_iff_right₀ (by norm_num)).mp between
  unfold gridExponent
  omega

/-- Rounding keeps the order of quotients. -/
theorem nearestMagnitude_mono {num den num' den' : Nat} (broken : den ≠ 0) (broken' : den' ≠ 0)
    (least : (num : ℚ) / den ≤ (num' : ℚ) / den') :
    nearestMagnitude format num den ≤ nearestMagnitude format num' den' := by
  by_cases empty : num = 0
  · subst empty
    exact Nat.zero_le _
  by_cases empty' : num' = 0
  · subst empty'
    have positive : (0 : ℚ) < num / den :=
      div_pos (by exact_mod_cast Nat.pos_of_ne_zero empty)
        (by exact_mod_cast Nat.pos_of_ne_zero broken)
    rw [Nat.cast_zero, zero_div] at least
    exact absurd least (not_le.mpr positive)
  obtain ⟨n, d, positive, units, nearest⟩ := exists_units format empty broken
  obtain ⟨n', d', positive', units', nearest'⟩ := exists_units format empty' broken'
  rw [nearest, nearest']
  apply min_le_min_right
  rcases (gridExponent_mono format empty broken empty' broken' least).eq_or_lt
    with same | finer
  · -- On one grid the significands are compared,
    have power : (0 : ℚ) < 2 ^ gridExponent format num' den' := by positivity
    have ordered : (n : ℚ) / d ≤ n' / d' := by
      rw [units, units', same]
      gcongr
    rw [div_le_div_iff₀ (by exact_mod_cast positive) (by exact_mod_cast positive')] at ordered
    rw [same]
    exact Nat.add_le_add_left (roundHalfEven_mono positive positive' (by exact_mod_cast ordered)) _
  · -- and between two grids lies a power of two.
    have low : roundHalfEven n d ≤ 2 ^ (format.fractionBits + 1) :=
      roundHalfEven_le_of_div_le positive (units ▸ div_grid_le empty broken)
    have coarse : format.minExponent < gridExponent format num' den' :=
      (le_max_right _ _).trans_lt finer
    have high : 2 ^ format.fractionBits ≤ roundHalfEven n' d' :=
      le_roundHalfEven_of_le_div positive' (units' ▸ le_div_grid empty' broken' coarse)
    have step : (gridExponent format num den - format.minExponent).toNat + 1 ≤
        (gridExponent format num' den' - format.minExponent).toNat := by
      have bound : format.minExponent ≤ gridExponent format num den := le_max_right _ _
      omega
    have grids := Nat.mul_le_mul_right (2 ^ format.fractionBits) step
    rw [Nat.add_mul, Nat.one_mul] at grids
    rw [Nat.pow_succ] at low
    omega

/-! ## The order of values -/

def magnitudeValue (format : Format) (magnitude : Nat) : ℚ :=
  if magnitude / 2 ^ format.fractionBits = 0 then
    ((magnitude % 2 ^ format.fractionBits : Nat) : ℚ) * 2 ^ format.minExponent
  else
    ((magnitude % 2 ^ format.fractionBits + 2 ^ format.fractionBits : Nat) : ℚ) *
      2 ^ (format.minExponent + ((magnitude / 2 ^ format.fractionBits : Nat) : Int) - 1)

theorem toRat_of_isFinite {x : Binary format} (finite : x.isFinite = true) :
    x.toRat = (if x.negative then -1 else 1) * magnitudeValue format x.magnitude := by
  obtain ⟨negative, significand, exponent, parts⟩ := x.isFinite_iff.mp finite
  have value := toRat_of_finite parts
  unfold datum at parts
  dsimp only at parts
  unfold magnitudeValue
  split at parts
  · split at parts <;> cases parts
  · split at parts
    · rename_i least
      cases parts
      rw [value, if_pos least, mul_assoc]
    · rename_i more
      cases parts
      rw [value, if_neg more, mul_assoc]

theorem magnitudeValue_le (magnitude : Nat) : magnitudeValue format magnitude ≤
    ((2 ^ format.fractionBits : Nat) : ℚ) *
      2 ^ (format.minExponent + ((magnitude / 2 ^ format.fractionBits : Nat) : Int)) := by
  have small := Nat.mod_lt magnitude (Nat.two_pow_pos format.fractionBits)
  have two : (2 : ℚ) ≠ 0 := by norm_num
  unfold magnitudeValue
  split
  · rename_i least
    rw [least, Nat.cast_zero, add_zero]
    gcongr
  · have double : ((magnitude % 2 ^ format.fractionBits + 2 ^ format.fractionBits : Nat) : ℚ) ≤
        ((2 ^ format.fractionBits : Nat) : ℚ) * 2 := by
      exact_mod_cast (by omega : _ ≤ 2 ^ format.fractionBits * 2)
    calc _ ≤ ((2 ^ format.fractionBits : Nat) : ℚ) * 2 *
          2 ^ (format.minExponent + ((magnitude / 2 ^ format.fractionBits : Nat) : Int) - 1) := by
          gcongr
      _ = _ := by
        rw [zpow_sub_one₀ two]
        field_simp

theorem le_magnitudeValue {magnitude : Nat} (more : magnitude / 2 ^ format.fractionBits ≠ 0) :
    ((2 ^ format.fractionBits : Nat) : ℚ) *
        2 ^ (format.minExponent + ((magnitude / 2 ^ format.fractionBits : Nat) : Int) - 1) ≤
      magnitudeValue format magnitude := by
  unfold magnitudeValue
  rw [if_neg more]
  gcongr
  exact Nat.le_add_left _ _

theorem magnitudeValue_mono {less more : Nat} (least : less ≤ more) :
    magnitudeValue format less ≤ magnitudeValue format more := by
  rcases (Nat.div_le_div_right (c := 2 ^ format.fractionBits) least).eq_or_lt with same | finer
  · have front := Nat.div_add_mod less (2 ^ format.fractionBits)
    have behind := Nat.div_add_mod more (2 ^ format.fractionBits)
    have fraction : less % 2 ^ format.fractionBits ≤ more % 2 ^ format.fractionBits := by
      rw [same] at front
      omega
    unfold magnitudeValue
    rw [same]
    split
    · gcongr
    · gcongr
  · have step : ((less / 2 ^ format.fractionBits : Nat) : Int) ≤
        ((more / 2 ^ format.fractionBits : Nat) : Int) - 1 := by omega
    have filled := Nat.ne_of_gt (Nat.zero_lt_of_lt finer)
    refine (magnitudeValue_le less).trans (le_trans ?_ (le_magnitudeValue filled))
    rw [add_sub_assoc]
    gcongr
    norm_num

theorem magnitudeValue_nonneg (magnitude : Nat) : 0 ≤ magnitudeValue format magnitude := by
  unfold magnitudeValue
  split <;> positivity

/-! ## Rational numbers -/

theorem infinityMagnitude_lt (format : Format) :
    format.infinityMagnitude < 2 ^ format.magnitudeBits := by
  have more : 2 ^ format.exponentBits - 1 < 2 ^ format.exponentBits :=
    Nat.sub_lt (Nat.two_pow_pos _) Nat.one_pos
  rw [Format.infinityMagnitude, Format.magnitudeBits, Nat.pow_add]
  exact Nat.mul_lt_mul_of_pos_right more (Nat.two_pow_pos _)

theorem nearestMagnitude_le (num den : Nat) :
    nearestMagnitude format num den ≤ format.infinityMagnitude := by
  unfold nearestMagnitude
  split
  · exact Nat.zero_le _
  · exact Nat.min_le_right _ _

theorem toNat_ofMagnitude {magnitude : Nat} (bound : magnitude < 2 ^ format.magnitudeBits)
    (negative : Bool) :
    (ofMagnitude format negative magnitude).bits.toNat =
      (if negative then 2 ^ format.magnitudeBits else 0) + magnitude := by
  unfold ofMagnitude
  rw [BitVec.toNat_ofNat, Format.width, Nat.pow_succ]
  apply Nat.mod_eq_of_lt
  split <;> omega

theorem magnitude_ofMagnitude {magnitude : Nat} (bound : magnitude < 2 ^ format.magnitudeBits)
    (negative : Bool) : (ofMagnitude format negative magnitude).magnitude = magnitude := by
  rw [Binary.magnitude, toNat_ofMagnitude bound]
  split
  · rw [Nat.add_mod_left, Nat.mod_eq_of_lt bound]
  · rw [Nat.zero_add, Nat.mod_eq_of_lt bound]

theorem negative_ofMagnitude {magnitude : Nat} (bound : magnitude < 2 ^ format.magnitudeBits)
    (negative : Bool) : (ofMagnitude format negative magnitude).negative = negative := by
  rw [Binary.negative, toNat_ofMagnitude bound]
  cases negative with
  | true => simp
  | false => simpa using bound

theorem bound_nearestMagnitude (num den : Nat) :
    nearestMagnitude format num den < 2 ^ format.magnitudeBits :=
  (nearestMagnitude_le num den).trans_lt (infinityMagnitude_lt format)

theorem magnitude_ofRat (format : Format) (q : ℚ) :
    (ofRat format q).magnitude = nearestMagnitude format q.num.natAbs q.den :=
  magnitude_ofMagnitude (bound_nearestMagnitude _ _) _

theorem negative_ofRat (format : Format) {q : ℚ} (nonneg : 0 ≤ q) :
    (ofRat format q).negative = false := by
  unfold ofRat ofRatio
  rw [negative_ofMagnitude (bound_nearestMagnitude _ _)]
  exact decide_eq_false (not_lt.mpr nonneg)

/-- Rounding keeps the order of numbers that are not negative. -/
theorem magnitude_ofRat_mono {q r : ℚ} (nonneg : 0 ≤ q) (least : q ≤ r) :
    (ofRat format q).magnitude ≤ (ofRat format r).magnitude := by
  have value {q : ℚ} (nonneg : 0 ≤ q) : ((q.num.natAbs : Nat) : ℚ) / (q.den : ℚ) = q := by
    rw [Nat.cast_natAbs, abs_of_nonneg (Rat.num_nonneg.mpr nonneg), Rat.num_div_den]
  rw [magnitude_ofRat, magnitude_ofRat]
  apply nearestMagnitude_mono q.den_nz r.den_nz
  rw [value nonneg, value (nonneg.trans least)]
  exact least

theorem toRat_of_not_isFinite {x : Binary format} (endless : ¬x.isFinite = true) :
    x.toRat = 0 := by
  unfold toRat
  split
  · rename_i parts
    exact absurd (x.isFinite_iff.mpr ⟨_, _, _, parts⟩) endless
  · rfl

theorem toRat_nonneg {x : Binary format} (positive : x.negative = false) : 0 ≤ x.toRat := by
  by_cases finite : x.isFinite = true
  · rw [toRat_of_isFinite finite, positive]
    simpa using magnitudeValue_nonneg x.magnitude
  · rw [toRat_of_not_isFinite finite]

theorem toRat_mono {x y : Binary format} (positive : x.negative = false)
    (positive' : y.negative = false) (finite : y.isFinite = true)
    (least : x.magnitude ≤ y.magnitude) : x.toRat ≤ y.toRat := by
  have finite' : x.isFinite = true :=
    decide_eq_true (least.trans_lt (of_decide_eq_true finite))
  rw [toRat_of_isFinite finite, toRat_of_isFinite finite', positive, positive']
  simpa using magnitudeValue_mono least

theorem isFinite_ofRat_of_le {q r : ℚ} (nonneg : 0 ≤ q) (least : q ≤ r)
    (finite : (ofRat format r).isFinite = true) : (ofRat format q).isFinite = true :=
  decide_eq_true ((magnitude_ofRat_mono nonneg least).trans_lt (of_decide_eq_true finite))

theorem toRat_ofRat_mono {q r : ℚ} (nonneg : 0 ≤ q) (least : q ≤ r)
    (finite : (ofRat format r).isFinite = true) :
    (ofRat format q).toRat ≤ (ofRat format r).toRat :=
  toRat_mono (negative_ofRat format nonneg) (negative_ofRat format (nonneg.trans least)) finite
    (magnitude_ofRat_mono nonneg least)

theorem ofInt_eq_ofRat (format : Format) (n : Int) : ofInt format n = ofRat format n := by
  unfold ofInt ofRat
  rw [Rat.num_intCast, Rat.den_intCast]
  congr 1
  simp

end Binary

end RelationQuery
