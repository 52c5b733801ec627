import Mathlib.Algebra.Order.Field.Basic
import RelationQuery.Json.Numeral
import RelationQuery.Proofs.ShortestDigits

/-!
# Scaled numbers

A significand and a power of ten are rounded one after the other, and what comes out is finite. Only
at the top of the range can nothing come out; there the product is compared with that of the greatest
significand that stays below the last number. The fewest digits of every finite number stay below,
but for those of the last one.
-/

namespace RelationQuery.Json

/-! ## Numbers that are read are finite -/

def greatest : Double := Binary.ofMagnitude .double false (Format.double.infinityMagnitude - 1)

theorem isFinite_neg {x : Double} (finite : x.isFinite = true) : x.neg.isFinite = true := by
  have bound : x.magnitude < 2 ^ Format.double.magnitudeBits :=
    (of_decide_eq_true finite).trans (Binary.infinityMagnitude_lt .double)
  unfold Binary.isFinite Binary.neg
  rw [Binary.magnitude_ofMagnitude bound]
  exact finite

theorem isFinite_zero (negative : Bool) : (Binary.zero .double negative).isFinite = true := by
  cases negative <;> decide

theorem toRat_le_greatest {x : Double} (positive : x.negative = false) :
    x.toRat ≤ greatest.toRat := by
  have known : greatest.isFinite = true ∧ greatest.negative = false ∧
      greatest.magnitude = Format.double.infinityMagnitude - 1 := by decide
  by_cases finite : x.isFinite = true
  · have below : x.magnitude < Format.double.infinityMagnitude := of_decide_eq_true finite
    exact Binary.toRat_mono positive known.2.1 known.1 (by omega)
  · rw [Binary.toRat_of_not_isFinite finite]
    exact Binary.toRat_nonneg known.2.1

theorem isFinite_ofRat_greatest : (Binary.ofRat .double greatest.toRat).isFinite = true := by
  decide +kernel

namespace Scaled

theorem powerOfTen_eq (places : Nat) :
    powerOfTen places = Binary.ofRat .double ((10 ^ places : Nat) : ℚ) := by
  rw [powerOfTen, Binary.ofInt_eq_ofRat]
  push_cast
  rfl

theorem isFinite_of_le_powerOfTen {less more : Nat} (least : less ≤ more)
    (finite : (powerOfTen more).isFinite = true) : (powerOfTen less).isFinite = true := by
  have powers : ((10 ^ less : Nat) : ℚ) ≤ ((10 ^ more : Nat) : ℚ) := by
    exact_mod_cast Nat.pow_le_pow_right (by decide) least
  rw [powerOfTen_eq] at finite ⊢
  exact Binary.isFinite_ofRat_of_le (Nat.cast_nonneg _) powers finite

/-- The first and the last power of ten in range. -/
theorem powerOfTen_ends : (powerOfTen 0).toRat = 1 ∧ (powerOfTen 308).isFinite = true := by
  decide +kernel

theorem isFinite_powerOfTen {places : Nat} (small : places ≤ 308) :
    (powerOfTen places).isFinite = true :=
  isFinite_of_le_powerOfTen small powerOfTen_ends.2

theorem powerOfTen_mono {less more : Nat} (least : less ≤ more) (small : more ≤ 308) :
    (powerOfTen less).toRat ≤ (powerOfTen more).toRat := by
  have finite := isFinite_powerOfTen small
  have powers : ((10 ^ less : Nat) : ℚ) ≤ ((10 ^ more : Nat) : ℚ) := by
    exact_mod_cast Nat.pow_le_pow_right (by decide) least
  rw [powerOfTen_eq] at finite
  rw [powerOfTen_eq, powerOfTen_eq]
  exact Binary.toRat_ofRat_mono (Nat.cast_nonneg _) powers finite

theorem one_le_powerOfTen {places : Nat} (small : places ≤ 308) :
    1 ≤ (powerOfTen places).toRat :=
  powerOfTen_ends.1.symm.trans_le (powerOfTen_mono (Nat.zero_le _) small)

/-- A quotient of a number and a power of ten is in range. -/
theorem isFinite_quotient {x : Double} (positive : x.negative = false) {places : Nat}
    (small : places ≤ 308) :
    0 ≤ x.toRat / (powerOfTen places).toRat ∧
      (Binary.ofRat .double (x.toRat / (powerOfTen places).toRat)).isFinite = true := by
  have nonneg := Binary.toRat_nonneg positive
  have one := one_le_powerOfTen small
  refine ⟨div_nonneg nonneg (zero_le_one.trans one), ?_⟩
  apply Binary.isFinite_ofRat_of_le (div_nonneg nonneg (zero_le_one.trans one)) _
    isFinite_ofRat_greatest
  exact (div_le_self nonneg one).trans (toRat_le_greatest positive)

/-- Division by a power of ten stays in range. -/
theorem isFinite_shrink {x : Double} (positive : x.negative = false) (places : Nat) :
    (shrink x places).isFinite = true := by
  fun_induction shrink x places with
  | case1 x places zero =>
      have none : x.magnitude = 0 := of_decide_eq_true zero
      exact decide_eq_true (by rw [none]; decide)
  | case2 x places filled small => exact (isFinite_quotient positive small).2
  | case3 x places filled large ih =>
      exact ih (Binary.negative_ofRat .double (isFinite_quotient positive (Nat.le_refl _)).1)

theorem isFinite_of_magnitude? {number : Scaled} {x : Double}
    (magnitude : number.magnitude? = some x) : x.isFinite = true := by
  have positive : (Binary.ofInt .double number.significand).negative = false := by
    rw [Binary.ofInt_eq_ofRat]
    exact Binary.negative_ofRat .double (by exact_mod_cast Nat.cast_nonneg number.significand)
  unfold magnitude? at magnitude
  dsimp only at magnitude
  split at magnitude
  · cases magnitude
    exact isFinite_shrink positive _
  · split at magnitude
    · rename_i zero
      cases magnitude
      have none : (Binary.ofInt .double number.significand).magnitude = 0 := of_decide_eq_true zero
      exact decide_eq_true (by rw [none]; decide)
    · split at magnitude
      · cases magnitude
      · split at magnitude
        · rename_i finite
          cases magnitude
          exact finite
        · cases magnitude

theorem isFinite_of_toDouble? {negative : Bool} {number : Scaled} {x : Double}
    (read : number.toDouble? negative = some x) : x.isFinite = true := by
  obtain ⟨y, magnitude, rfl⟩ := Option.map_eq_some_iff.mp read
  have finite := isFinite_of_magnitude? magnitude
  cases negative with
  | false => exact finite
  | true => exact isFinite_neg finite

/-! ## The top of the range -/

def product (significand places : Nat) : Double :=
  Binary.ofRat .double ((Binary.ofInt .double significand).toRat * (powerOfTen places).toRat)

theorem isFinite_product_of_le {less more low high : Nat} (least : less ≤ more)
    (start : (Binary.ofInt .double more).isFinite = true) (powers : low ≤ high)
    (small : high ≤ 308) (finite : (product more high).isFinite = true) :
    (product less low).isFinite = true := by
  have cast : ((less : Int) : ℚ) ≤ ((more : Int) : ℚ) := by exact_mod_cast least
  have nonneg : (0 : ℚ) ≤ ((less : Int) : ℚ) := by exact_mod_cast Nat.cast_nonneg less
  rw [Binary.ofInt_eq_ofRat] at start
  unfold product at finite ⊢
  rw [Binary.ofInt_eq_ofRat] at finite ⊢
  have significands := Binary.toRat_ofRat_mono nonneg cast start
  have left := Binary.toRat_nonneg (Binary.negative_ofRat .double nonneg)
  have right := zero_le_one.trans (one_le_powerOfTen (powers.trans small))
  exact Binary.isFinite_ofRat_of_le (mul_nonneg left right)
    (mul_le_mul significands (powerOfTen_mono powers small) right (left.trans significands)) finite

/-- The upper end of the interval around the last number but one. -/
def upperEnd : Nat := (2 ^ 55 - 6) * 2 ^ 969

def mostAt (places : Nat) : Nat := upperEnd / 10 ^ places

theorem mostAt_le {less more : Nat} (least : less ≤ more) : mostAt more ≤ mostAt less :=
  Nat.div_le_div_left (Nat.pow_le_pow_right (by decide) least) (Nat.pow_pos (by decide))

/-- Up to 288 places every significand of 18 digits fits, and from 309 places on none does. -/
theorem mostAt_ends : 10 ^ 18 ≤ mostAt 288 ∧ mostAt 309 = 0 := by decide +kernel

/-- The products of these significands fit. They are looked at one by one, since three roundings
could add more than the last number leaves. -/
theorem isFinite_mostAt : ∀ more < 21,
    (Binary.ofInt .double (mostAt (288 + more))).isFinite = true ∧
      (product (mostAt (288 + more)) (288 + more)).isFinite = true := by
  decide +kernel

/-- Digits whose value is not above the upper end are read. -/
theorem isSome_magnitude? {number : Scaled} (filled : number.significand ≠ 0)
    (small : number.significand ≤ 10 ^ 18)
    (most : (number.significand : ℚ) * 10 ^ number.exponent ≤ upperEnd) :
    number.magnitude?.isSome = true := by
  obtain ⟨significand, exponent⟩ := number
  dsimp only at filled small most
  unfold magnitude?
  dsimp only
  split
  · rfl
  · split
    · rfl
    · rename_i whole _
      obtain ⟨places, rfl⟩ := Int.eq_ofNat_of_zero_le (Int.not_lt.mp whole)
      rw [zpow_natCast] at most
      have fits : significand ≤ mostAt places :=
        (Nat.le_div_iff_mul_le (Nat.pow_pos (by decide))).mpr (by exact_mod_cast most)
      have range : places ≤ 308 := by
        by_contra large
        have less : mostAt places ≤ mostAt 309 := mostAt_le (by omega)
        have none : mostAt 309 = 0 := mostAt_ends.2
        omega
      have finite : (product significand places).isFinite = true := by
        by_cases low : places ≤ 288
        · obtain ⟨start, fitting⟩ := isFinite_mostAt 0 (by decide)
          exact isFinite_product_of_le (small.trans mostAt_ends.1) start low (by decide) fitting
        · obtain ⟨more, rfl⟩ := Nat.exists_eq_add_of_le (Nat.le_of_lt (Nat.lt_of_not_le low))
          obtain ⟨start, fitting⟩ := isFinite_mostAt more (by omega)
          exact isFinite_product_of_le fits start (Nat.le_refl _) range fitting
      have bound : ¬(308 : Int) < places := by omega
      rw [if_neg bound, Int.toNat_natCast]
      exact congrArg Option.isSome (if_pos finite)

/-! ## The digits of finite numbers -/

theorem finite_bounds {x : Double} {negative : Bool} {significand : Nat} {exponent : Int}
    (finite : x.datum = .finite negative significand exponent) :
    significand < 2 ^ 53 ∧ exponent ≤ 971 := by
  have fraction := Nat.mod_lt x.magnitude (Nat.two_pow_pos 52)
  have field : x.magnitude / 2 ^ 52 < 2048 :=
    (Nat.div_lt_iff_lt_mul (Nat.two_pow_pos _)).mpr x.magnitude_lt
  have least : Format.double.minExponent = -1074 := rfl
  have bits : Format.double.fractionBits = 52 := rfl
  have top : 2 ^ Format.double.exponentBits - 1 = 2047 := rfl
  unfold Binary.datum at finite
  rw [least, bits, top] at finite
  dsimp only at finite
  split at finite
  · split at finite <;> cases finite
  · split at finite
    · cases finite
      omega
    · cases finite
      omega

theorem cast_upperEnd : (upperEnd : ℚ) = ((2 ^ 55 - 6 : Nat) : ℚ) * 2 ^ (969 : Int) := by
  unfold upperEnd
  rw [Nat.cast_mul, Nat.cast_pow]
  rfl

/-- Below the last number, the interval around a number stays below the upper end. -/
theorem interval_le {significand : Nat} {exponent : Int} (bits : significand < 2 ^ 53)
    (range : exponent ≤ 971) (other : ¬(significand = 2 ^ 53 - 1 ∧ exponent = 971)) :
    ((4 * significand + 2 : Nat) : ℚ) * 2 ^ (exponent - 2) ≤ upperEnd := by
  rw [cast_upperEnd]
  by_cases coarse : exponent = 971
  · subst coarse
    have most : 4 * significand + 2 ≤ 2 ^ 55 - 6 := by omega
    have step : (971 : Int) - 2 = 969 := rfl
    rw [step]
    gcongr
  · have most : 4 * significand + 2 ≤ (2 ^ 55 - 6) * 2 := by omega
    calc ((4 * significand + 2 : Nat) : ℚ) * 2 ^ (exponent - 2)
        ≤ (((2 ^ 55 - 6) * 2 : Nat) : ℚ) * 2 ^ (968 : Int) := by
          gcongr
          · norm_num
          · omega
      _ = ((2 ^ 55 - 6 : Nat) : ℚ) * 2 ^ ((968 : Int) + 1) := by
          rw [zpow_add_one₀ (by norm_num), Nat.cast_mul]
          ring

/-- The fewest digits of a finite number are read. -/
theorem isSome_shortest {significand : Nat} {exponent : Int} (filled : 0 < significand)
    (bits : significand < 2 ^ 53) (range : exponent ≤ 971) :
    (magnitude? ⟨(Binary.shortest .double .toEven significand exponent).digits,
      (Binary.shortest .double .toEven significand exponent).exponent⟩).isSome = true := by
  by_cases last : significand = 2 ^ 53 - 1 ∧ exponent = 971
  · obtain ⟨rfl, rfl⟩ := last
    decide +kernel
  · obtain ⟨digits, small, most⟩ := Binary.shortest_bounds .double .toEven filled exponent
    exact isSome_magnitude? digits small (most.trans (interval_le bits range last))

/-- The first digit of a finite number stands at a small power of ten. -/
theorem leading_le {significand : Nat} {exponent : Int} (filled : 0 < significand)
    (bits : significand < 2 ^ 53) (range : exponent ≤ 971) :
    (Binary.shortest .double .toEven significand exponent).exponent +
      (Nat.toDigits 10 (Binary.shortest .double .toEven significand exponent).digits).length - 1 ≤
        1024 := by
  obtain ⟨digits, -, most⟩ := Binary.shortest_bounds .double .toEven filled exponent
  generalize Binary.shortest .double .toEven significand exponent = number at *
  have first := Binary.pow_le_of_toDigits digits
  have positive := Binary.length_toDigits_pos number.digits
  have small : 4 * significand + 2 ≤ 2 ^ 55 := by omega
  have power : (10 : ℚ) ^ (number.exponent + (Nat.toDigits 10 number.digits).length - 1) ≤
      10 ^ (1024 : Int) := calc
    (10 : ℚ) ^ (number.exponent + (Nat.toDigits 10 number.digits).length - 1)
        = ((10 ^ ((Nat.toDigits 10 number.digits).length - 1) : Nat) : ℚ) *
            10 ^ number.exponent := by
          rw [Nat.cast_pow, ← zpow_natCast, Nat.cast_ofNat, ← zpow_add₀ (by norm_num)]
          congr 1
          omega
    _ ≤ number.value := by
          unfold Binary.DecimalDigits.value
          gcongr
    _ ≤ ((2 ^ 55 : Nat) : ℚ) * 2 ^ (971 - 2 : Int) := by
          refine most.trans ?_
          gcongr
          norm_num
    _ = (2 : ℚ) ^ ((55 : Nat) + (971 - 2) : Int) := by
          rw [zpow_add₀ (by norm_num), zpow_natCast]
          rfl
    _ ≤ 10 ^ (1024 : Int) := zpow_le_zpow_left₀ (by norm_num) (by norm_num) (by norm_num)
  exact (zpow_le_zpow_iff_right₀ (by norm_num)).mp power

end Scaled

end RelationQuery.Json
