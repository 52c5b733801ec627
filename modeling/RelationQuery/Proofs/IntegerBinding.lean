import Mathlib.Tactic.NormNum
import RelationQuery.Proofs.BoundCells
import RelationQuery.Proofs.BoundValues
import RelationQuery.Proofs.IntegerText
import RelationQuery.Proofs.RoundingOrder

/-!
# Binding integers

A value denotes an integer where its exact value is whole: a floating number or a decimal by the
rational number that it is, and text by the number that it writes. Bound to an integer type, a value
becomes the word of the integer that it denotes if that is in range, and is refused otherwise.
-/

namespace RelationQuery

/-! ## Floating numbers -/

namespace Binary

variable {format : Format}

/-- The number is finite, and its exact value is `n`. -/
def IsInteger (x : Binary format) (n : Int) : Prop :=
  ∃ negative significand exponent, x.datum = .finite negative significand exponent ∧
    (if negative then -1 else 1) * (significand : ℚ) * 2 ^ exponent = n

/-- A number is taken for whole exactly where its value is. -/
theorem toInt?_eq_some_iff {x : Binary format} {n : Int} :
    x.toInt? = some n ↔ x.IsInteger n := by
  unfold toInt? IsInteger
  by_cases finite : x.isFinite = true
  · obtain ⟨negative, significand, exponent, parts⟩ := x.isFinite_iff.mp finite
    have whole : x.toRat.den = 1 ∧ x.toRat.num = n ↔ x.toRat = n := by
      constructor
      · rintro ⟨single, rfl⟩
        exact (Rat.den_eq_one_iff _).mp single |>.symm
      · intro same
        rw [same]
        exact ⟨Rat.den_intCast n, Rat.num_intCast n⟩
    have chosen : (if x.isFinite && x.toRat.den = 1 then some x.toRat.num else none) = some n ↔
        x.toRat.den = 1 ∧ x.toRat.num = n := by
      simp [finite]
    rw [chosen, whole, toRat_of_finite parts]
    constructor
    · exact fun same => ⟨negative, significand, exponent, parts, same⟩
    · rintro ⟨_, _, _, again, same⟩
      rw [parts] at again
      cases again
      exact same
  · have refused : (if x.isFinite && x.toRat.den = 1 then some x.toRat.num else none) =
        (none : Option Int) := by simp [finite]
    rw [refused]
    refine ⟨fun same => (nomatch same), ?_⟩
    rintro ⟨negative, significand, exponent, parts, _⟩
    exact absurd (x.isFinite_iff.mpr ⟨negative, significand, exponent, parts⟩) finite

end Binary

/-! ## Decimals -/

namespace Decimal

def IsInteger (d : Decimal) (n : Int) : Prop := (d.signed : ℚ) / 10 ^ d.scale = n

theorem natAbs_signed (d : Decimal) : d.signed.natAbs = d.mantissa := by
  unfold signed
  split
  · exact (Int.natAbs_neg _).trans (Int.natAbs_natCast _)
  · exact Int.natAbs_natCast _

theorem isInteger_iff {d : Decimal} {n : Int} :
    d.IsInteger n ↔ d.signed = n * ((10 ^ d.scale : Nat) : Int) := by
  have positive : (10 ^ d.scale : ℚ) ≠ 0 := by positivity
  unfold IsInteger
  rw [div_eq_iff positive]
  constructor
  · intro same
    exact_mod_cast same
  · intro same
    rw [same]
    push_cast
    rfl

theorem toInt?_eq_some_iff {d : Decimal} {n : Int} : d.toInt? = some n ↔ d.IsInteger n := by
  have positive : ((10 ^ d.scale : Nat) : Int) ≠ 0 :=
    Int.natCast_ne_zero.mpr (Nat.ne_of_gt (Nat.pow_pos (by decide)))
  have divides : d.mantissa % 10 ^ d.scale = 0 ↔ ((10 ^ d.scale : Nat) : Int) ∣ d.signed := by
    rw [Int.natCast_dvd, natAbs_signed, Nat.dvd_iff_mod_eq_zero]
  rw [isInteger_iff]
  unfold toInt?
  split
  · rename_i whole
    obtain ⟨quotient, split⟩ := divides.mp whole
    have back : d.signed.tdiv ((10 ^ d.scale : Nat) : Int) = quotient := by
      rw [split, Int.mul_tdiv_cancel_left _ positive]
    rw [back, split, Int.mul_comm, Option.some.injEq]
    exact ⟨fun same => same ▸ rfl, fun same => Int.eq_of_mul_eq_mul_right positive same⟩
  · rename_i broken
    refine ⟨fun same => (nomatch same), fun same => ?_⟩
    exact absurd (divides.mpr ⟨n, same.trans (Int.mul_comm _ _)⟩) broken

end Decimal

/-! ## The integer that a value denotes -/

namespace Value

inductive Denotes : Value → Int → Prop where
  | int16 (n : Int16) : Denotes (.int16 n) n.toInt
  | int32 (n : Int32) : Denotes (.int32 n) n.toInt
  | int64 (n : Int64) : Denotes (.int64 n) n.toInt
  | float32 {x : Single} {n : Int} (whole : x.IsInteger n) : Denotes (.float32 x) n
  | float64 {x : Double} {n : Int} (whole : x.IsInteger n) : Denotes (.float64 x) n
  | decimal {d : Decimal} {n : Int} (whole : d.IsInteger n) : Denotes (.decimal d) n
  | text {s : String} {n : Int} (written : Text.Writes (Text.trim s.toList) n) :
      Denotes (.text s) n

def isNumeric : Value → Bool
  | .int16 _ | .int32 _ | .int64 _ | .float32 _ | .float64 _ | .decimal _ | .text _ => true
  | .null | .bool _ | .bytes _ | .uuid _ | .timestamp _ | .date _ | .json _ | .array _ => false

end Value

namespace Wire

theorem wholeInt64?_eq_some_iff {number : Option Int} {n : Int} :
    wholeInt64? number = some n ↔ number = some n ∧ -2 ^ 63 ≤ n ∧ n < 2 ^ 63 := by
  simp [wholeInt64?, Option.filter_eq_some_iff]

theorem orElse_eq_ok_iff {α : Type} {refusal : Refusal} {found : Option α} {a : α} :
    orElse refusal found = .ok a ↔ found = some a := by
  cases found <;> simp [orElse]

theorem mapError_eq_ok_iff {ε ε' α : Type} {change : ε → ε'} {result : Except ε α} {a : α} :
    result.mapError change = .ok a ↔ result = .ok a := by
  cases result <;> simp [Except.mapError]

/-- A value is brought to the integer that it denotes, if that has 64 bits. -/
theorem toInteger_eq_ok_iff {type : ScalarType} {value : Value} {n : Int} :
    toInteger type value = .ok n ↔ value.Denotes n ∧ -2 ^ 63 ≤ n ∧ n < 2 ^ 63 := by
  cases value with
  | int16 m | int32 m | int64 m =>
      have low := m.le_toInt
      have high := m.toInt_lt
      constructor
      · intro same
        cases same
        exact ⟨by constructor, by omega, by omega⟩
      · rintro ⟨⟨⟩, _⟩
        rfl
  | float32 x =>
      rw [toInteger, orElse_eq_ok_iff, wholeInt64?_eq_some_iff, Binary.toInt?_eq_some_iff]
      exact and_congr_left fun _ => ⟨.float32, fun (.float32 whole) => whole⟩
  | float64 x =>
      rw [toInteger, orElse_eq_ok_iff, wholeInt64?_eq_some_iff, Binary.toInt?_eq_some_iff]
      exact and_congr_left fun _ => ⟨.float64, fun (.float64 whole) => whole⟩
  | decimal d =>
      rw [toInteger, orElse_eq_ok_iff, wholeInt64?_eq_some_iff, Decimal.toInt?_eq_some_iff]
      exact and_congr_left fun _ => ⟨.decimal, fun (.decimal whole) => whole⟩
  | text s =>
      rw [toInteger, mapError_eq_ok_iff, Text.readInt64_eq_ok_iff]
      exact and_congr_left fun _ => ⟨.text, fun (.text written) => written⟩
  | null | bool | bytes | uuid | timestamp | date | json | array =>
      exact ⟨fun same => (nomatch same), fun ⟨denotes, _⟩ => (nomatch denotes)⟩

theorem toInteger_of_not_numeric (type : ScalarType) {value : Value}
    (other : value.isNumeric = false) : toInteger type value = .error (.mismatch value type) := by
  cases value with
  | int16 | int32 | int64 | float32 | float64 | decimal | text => cases other
  | null | bool | bytes | uuid | timestamp | date | json | array => rfl

/-! ## Words of integers -/

inductive IntegerType where
  | int2
  | int4
  | int8
  deriving DecidableEq, Repr

namespace IntegerType

def scalar : IntegerType → ScalarType
  | .int2 => .int2
  | .int4 => .int4
  | .int8 => .int8

def size : IntegerType → Nat
  | .int2 => 2
  | .int4 => 4
  | .int8 => 8

/-- The integer is in the range of the type. -/
def Holds (type : IntegerType) (n : Int) : Prop :=
  -2 ^ (8 * type.size - 1) ≤ n ∧ n < 2 ^ (8 * type.size - 1)

theorem Holds.fits64 {type : IntegerType} {n : Int} (holds : type.Holds n) :
    -2 ^ 63 ≤ n ∧ n < 2 ^ 63 := by
  obtain ⟨low, high⟩ := holds
  cases type <;> simp only [size] at low high <;> omega

/-- The words of a type are the integers in its range. -/
theorem holds_ofSignedBytes {type : IntegerType} {bytes : List UInt8}
    (long : bytes.length = type.size) : type.Holds (ofSignedBytes bytes) := by
  have range := ofSignedBytes_range bytes
  rw [long] at range
  unfold Holds
  cases type <;> simp only [size] at range ⊢ <;> omega

theorem ofSignedBytes_signedBytes {type : IntegerType} {n : Int} (holds : type.Holds n) :
    ofSignedBytes (signedBytes type.size n) = n := by
  obtain ⟨low, high⟩ := holds
  have nonnegative : 0 ≤ n % 256 ^ type.size := Int.emod_nonneg _ (by positivity)
  have less : n % 256 ^ type.size < 256 ^ type.size := Int.emod_lt_of_pos _ (by positivity)
  have small : (n % 256 ^ type.size).toNat < 256 ^ type.size :=
    (Int.toNat_lt nonnegative).mpr (by rwa [wordCount])
  rw [ofSignedBytes, signedBytes, ofBigEndian_bigEndian, length_bigEndian,
    Nat.mod_eq_of_lt small, Int.toNat_of_nonneg nonnegative, ← wordCount, Int.emod_bmod]
  apply Int.bmod_eq_of_le
  · cases type <;> simp only [size] at low ⊢ <;> omega
  · cases type <;> simp only [size] at high ⊢ <;> omega

end IntegerType

theorem narrowed_eq_ok_iff {count : Nat} {n m : Int} :
    narrowed count n = .ok m ↔
      n = m ∧ -2 ^ (8 * count - 1) ≤ n ∧ n < 2 ^ (8 * count - 1) := by
  constructor
  · intro same
    unfold narrowed at same
    split at same
    · cases same
    · split at same
      · cases same
      · cases same
        exact ⟨rfl, by omega, by omega⟩
  · rintro ⟨rfl, low, high⟩
    exact narrowed_of_range low high

/-- Narrowing passes on what the type holds and nothing else. -/
theorem narrowed_bytes_eq_ok_iff (type : IntegerType) {n : Int} {bytes : List UInt8} :
    (narrowed type.size n >>= fun n => pure (signedBytes type.size n)) = .ok bytes ↔
      type.Holds n ∧ signedBytes type.size n = bytes := by
  rw [bind_eq_ok]
  constructor
  · rintro ⟨_, fits, written⟩
    obtain ⟨rfl, holds⟩ := narrowed_eq_ok_iff.mp fits
    exact ⟨holds, Except.ok.inj written⟩
  · rintro ⟨holds, rfl⟩
    exact ⟨n, narrowed_eq_ok_iff.mpr ⟨rfl, holds⟩, rfl⟩

/-- A value is written as the word of the integer that it denotes. -/
theorem encodeScalar_integer_iff {type : IntegerType} {value : Value} {bytes : List UInt8} :
    encodeScalar type.scalar value = .ok bytes ↔
      ∃ n, value.Denotes n ∧ type.Holds n ∧ signedBytes type.size n = bytes := by
  have narrow : encodeScalar type.scalar value = .ok bytes ↔
      ∃ n, toInteger type.scalar value = .ok n ∧
        type.Holds n ∧ signedBytes type.size n = bytes := by
    cases type with
    | int2 =>
        refine bind_eq_ok.trans (exists_congr fun n => and_congr_right fun _ => ?_)
        exact narrowed_bytes_eq_ok_iff .int2
    | int4 =>
        refine bind_eq_ok.trans (exists_congr fun n => and_congr_right fun _ => ?_)
        exact narrowed_bytes_eq_ok_iff .int4
    | int8 =>
        -- An integer of 64 bits is not narrowed, for it is read as one.
        refine bind_eq_ok.trans (exists_congr fun n => and_congr_right fun read => ?_)
        have holds : IntegerType.int8.Holds n := (toInteger_eq_ok_iff.mp read).2
        exact ⟨fun same => ⟨holds, Except.ok.inj same⟩, fun ⟨_, same⟩ => congrArg _ same⟩
  rw [narrow]
  refine exists_congr fun n => ?_
  rw [toInteger_eq_ok_iff]
  constructor
  · rintro ⟨⟨denotes, _⟩, holds, written⟩
    exact ⟨denotes, holds, written⟩
  · rintro ⟨denotes, holds, written⟩
    exact ⟨⟨denotes, holds.fits64⟩, holds, written⟩

theorem encodeScalar_of_not_numeric {type : IntegerType} {value : Value}
    (other : value.isNumeric = false) :
    encodeScalar type.scalar value = .error (.mismatch value type.scalar) := by
  have refused := toInteger_of_not_numeric type.scalar other
  cases type with
  | int2 | int4 | int8 =>
      change (toInteger _ value >>= _) = _
      rw [refused]
      rfl

theorem bind_of_not_null {type : ScalarType} {value : Value} (present : value.isNull = false) :
    bind (.scalar type) value = (encodeScalar type value).map some := by
  rw [bind_scalar, encodeNullable, if_neg (by simp [present])]

theorem bind_integer_iff {type : IntegerType} {value : Value} {bytes : List UInt8} :
    bind (.scalar type.scalar) value = .ok (some bytes) ↔
      ∃ n, value.Denotes n ∧ type.Holds n ∧ signedBytes type.size n = bytes := by
  rw [← encodeScalar_integer_iff]
  cases absent : value.isNull with
  | true =>
      cases value with
      | null => cases type <;> exact ⟨fun same => (nomatch same), fun same => (nomatch same)⟩
      | _ => cases absent
  | false =>
      rw [bind_of_not_null absent]
      cases encodeScalar type.scalar value with
      | error refusal => exact ⟨fun same => (nomatch same), fun same => (nomatch same)⟩
      | ok written => simp [Except.map]

/-- Refused is every value but null that denotes no integer of the type. -/
theorem bind_integer_refused_iff {type : IntegerType} {value : Value} :
    (∃ refusal, bind (.scalar type.scalar) value = .error refusal) ↔
      value.isNull = false ∧ ∀ n, value.Denotes n → ¬type.Holds n := by
  constructor
  · rintro ⟨refusal, refused⟩
    refine ⟨?_, fun n denotes holds => ?_⟩
    · cases value with
      | null => cases refused
      | _ => rfl
    · have bound := bind_integer_iff.mpr ⟨n, denotes, holds, rfl⟩
      rw [refused] at bound
      cases bound
  · rintro ⟨present, outside⟩
    rw [bind_of_not_null present]
    cases written : encodeScalar type.scalar value with
    | error refusal => exact ⟨refusal, rfl⟩
    | ok bytes =>
        obtain ⟨n, denotes, holds, _⟩ := encodeScalar_integer_iff.mp written
        exact absurd holds (outside n denotes)

end Wire

open Wire

/-- Integers are bound exactly. The bytes of a value as a parameter of an integer type are the word,
in two's complement, of the integer that the value denotes; there are such bytes if and only if that
integer is in the range of the type; every other value but null is refused, and with it all values
that are neither numbers nor text. -/
theorem integers_bind_exactly (type : IntegerType) (value : Value) :
    (∀ bytes, Wire.bind (.scalar type.scalar) value = .ok (some bytes) ↔
      bytes.length = type.size ∧ value.Denotes (ofSignedBytes bytes)) ∧
    ((∃ bytes, Wire.bind (.scalar type.scalar) value = .ok (some bytes)) ↔
      ∃ n, value.Denotes n ∧ type.Holds n) ∧
    ((∃ refusal, Wire.bind (.scalar type.scalar) value = .error refusal) ↔
      value.isNull = false ∧ ∀ n, value.Denotes n → ¬type.Holds n) ∧
    (value.isNumeric = false → value.isNull = false →
      Wire.bind (.scalar type.scalar) value = .error (.mismatch value type.scalar)) := by
  refine ⟨fun bytes => ?_, ?_, bind_integer_refused_iff, fun other present => ?_⟩
  · rw [bind_integer_iff]
    constructor
    · rintro ⟨n, denotes, holds, rfl⟩
      refine ⟨length_signedBytes _ _, ?_⟩
      rwa [IntegerType.ofSignedBytes_signedBytes holds]
    · rintro ⟨long, denotes⟩
      refine ⟨_, denotes, IntegerType.holds_ofSignedBytes long, ?_⟩
      rw [← long, signedBytes_ofSignedBytes]
  · constructor
    · rintro ⟨bytes, bound⟩
      obtain ⟨n, denotes, holds, _⟩ := bind_integer_iff.mp bound
      exact ⟨n, denotes, holds⟩
    · rintro ⟨n, denotes, holds⟩
      exact ⟨_, bind_integer_iff.mpr ⟨n, denotes, holds, rfl⟩⟩
  · rw [bind_of_not_null present, encodeScalar_of_not_numeric other]
    rfl

/-- The least floating number that eight bytes hold, and a truth value. -/
theorem leastFloat_bound :
    Wire.bind (.scalar .int8) (.float64 ⟨0xC3E0000000000000⟩) =
      .ok (some [0x80, 0, 0, 0, 0, 0, 0, 0]) ∧
    Value.isNumeric (.bool true) = false ∧ Value.isNull (.bool true) = false ∧
      Wire.bind (.scalar .int8) (.bool true) = .error (.mismatch (.bool true) .int8) := by
  have parts : (⟨0xC3E0000000000000⟩ : Double).datum = .finite true (2 ^ 52) 11 := by
    decide +kernel
  have word : ofSignedBytes [0x80, 0, 0, 0, 0, 0, 0, 0] = -2 ^ 63 := by decide
  have denotes : (Value.float64 ⟨0xC3E0000000000000⟩).Denotes
      (ofSignedBytes [0x80, 0, 0, 0, 0, 0, 0, 0]) := by
    refine .float64 ⟨true, 2 ^ 52, 11, parts, ?_⟩
    rw [word]
    norm_num
  exact ⟨((integers_bind_exactly .int8 _).1 _).mpr ⟨rfl, denotes⟩, rfl, rfl,
    (integers_bind_exactly .int8 (.bool true)).2.2.2 rfl rfl⟩

end RelationQuery
