import RelationQuery.Text.Digits

/-!
# Binary floating point

Numbers in the binary interchange formats, kept as bit patterns. What a pattern stands for is an
exact rational number, and every operation is defined through it: compute exactly, then round to the
nearest pattern, ties to the one with an even significand.
-/

namespace RelationQuery

/-- The widths of the two fields behind the sign bit. -/
structure Format where
  fractionBits : Nat
  exponentBits : Nat
  deriving DecidableEq, Repr

namespace Format

def double : Format := ⟨52, 11⟩

def single : Format := ⟨23, 8⟩

def magnitudeBits (format : Format) : Nat := format.exponentBits + format.fractionBits

def width (format : Format) : Nat := format.magnitudeBits + 1

/-- The exponent of the finest grid: every finite number is a multiple of two to this power. -/
def minExponent (format : Format) : Int :=
  2 - 2 ^ (format.exponentBits - 1) - format.fractionBits

/-- The magnitude of the infinities; those above it are not numbers. -/
def infinityMagnitude (format : Format) : Nat :=
  (2 ^ format.exponentBits - 1) * 2 ^ format.fractionBits

end Format

/-- A number of a format, as its bit pattern. -/
structure Binary (format : Format) where
  bits : BitVec format.width
  deriving DecidableEq, Repr

abbrev Double := Binary .double

abbrev Single := Binary .single

inductive Datum where
  | nan
  | infinite (negative : Bool)
  /-- The number `± significand * 2 ^ exponent`. -/
  | finite (negative : Bool) (significand : Nat) (exponent : Int)
  deriving DecidableEq, Repr

/-- The quotient rounded to a whole number, halves to the even neighbour. -/
def roundHalfEven (num den : Nat) : Nat :=
  let quotient := num / den
  let twice := 2 * (num % den)
  if twice < den then quotient
  else if den < twice then quotient + 1
  else quotient + quotient % 2

/-- The greatest `k` with `2 ^ k ≤ num / den`, for a positive quotient. -/
def floorLog2 (num den : Nat) : Int :=
  let estimate : Int := (Nat.log2 num : Int) - Nat.log2 den
  let reached :=
    if 0 ≤ estimate then decide (den * 2 ^ estimate.toNat ≤ num)
    else decide (den ≤ num * 2 ^ (-estimate).toNat)
  if reached then estimate else estimate - 1

def scaleByTwo (significand : Int) (exponent : Int) : Rat :=
  if 0 ≤ exponent then ((significand * 2 ^ exponent.toNat : Int) : Rat)
  else mkRat significand (2 ^ (-exponent).toNat)

namespace Binary

variable {format : Format}

def ofMagnitude (format : Format) (negative : Bool) (magnitude : Nat) : Binary format :=
  ⟨BitVec.ofNat _ ((if negative then 2 ^ format.magnitudeBits else 0) + magnitude)⟩

def negative (x : Binary format) : Bool := 2 ^ format.magnitudeBits ≤ x.bits.toNat

def magnitude (x : Binary format) : Nat := x.bits.toNat % 2 ^ format.magnitudeBits

def infinity (format : Format) (negative : Bool) : Binary format :=
  ofMagnitude format negative format.infinityMagnitude

/-- The quiet pattern without payload. -/
def nan (format : Format) (negative : Bool) : Binary format :=
  ofMagnitude format negative (format.infinityMagnitude + 2 ^ (format.fractionBits - 1))

def zero (format : Format) (negative : Bool) : Binary format := ofMagnitude format negative 0

def datum (x : Binary format) : Datum :=
  let exponentField := x.magnitude / 2 ^ format.fractionBits
  let fraction := x.magnitude % 2 ^ format.fractionBits
  if exponentField = 2 ^ format.exponentBits - 1 then
    if fraction = 0 then .infinite x.negative else .nan
  else if exponentField = 0 then .finite x.negative fraction format.minExponent
  else
    .finite x.negative (fraction + 2 ^ format.fractionBits)
      (format.minExponent + (exponentField : Int) - 1)

def isNaN (x : Binary format) : Bool := format.infinityMagnitude < x.magnitude

def isFinite (x : Binary format) : Bool := x.magnitude < format.infinityMagnitude

def isZero (x : Binary format) : Bool := x.magnitude = 0

/-- The value of a finite number; zero for all others. -/
def toRat (x : Binary format) : Rat :=
  match x.datum with
  | .finite negative significand exponent =>
      scaleByTwo (if negative then -(significand : Int) else significand) exponent
  | _ => 0

/-- The exponent of the grid on which the numbers around `num / den` lie. -/
def gridExponent (format : Format) (num den : Nat) : Int :=
  max (floorLog2 num den - format.fractionBits) format.minExponent

/-- The magnitude nearest to `num / den`, at most that of infinity. -/
def nearestMagnitude (format : Format) (num den : Nat) : Nat :=
  if num = 0 then 0
  else
    let exponent := gridExponent format num den
    let significand :=
      if 0 ≤ exponent then roundHalfEven num (den * 2 ^ exponent.toNat)
      else roundHalfEven (num * 2 ^ (-exponent).toNat) den
    min ((exponent - format.minExponent).toNat * 2 ^ format.fractionBits + significand)
      format.infinityMagnitude

def ofRatio (format : Format) (negative : Bool) (num den : Nat) : Binary format :=
  ofMagnitude format negative (nearestMagnitude format num den)

/-- The nearest number; zero is positive. -/
def ofRat (format : Format) (value : Rat) : Binary format :=
  ofRatio format (decide (value < 0)) value.num.natAbs value.den

def ofInt (format : Format) (n : Int) : Binary format :=
  ofRatio format (decide (n < 0)) n.natAbs 1

def neg (x : Binary format) : Binary format :=
  ofMagnitude format (!x.negative) x.magnitude

def convert (target : Format) (x : Binary format) : Binary target :=
  match x.datum with
  | .nan =>
      ofMagnitude target x.negative
        (target.infinityMagnitude + 2 ^ (target.fractionBits - 1) +
          (if format.fractionBits ≤ target.fractionBits then
            x.magnitude % 2 ^ (format.fractionBits - 1) *
              2 ^ (target.fractionBits - format.fractionBits)
          else
            x.magnitude % 2 ^ (format.fractionBits - 1) /
              2 ^ (format.fractionBits - target.fractionBits)))
  | .infinite negative => infinity target negative
  | .finite negative significand exponent =>
      if 0 ≤ exponent then ofRatio target negative (significand * 2 ^ exponent.toNat) 1
      else ofRatio target negative significand (2 ^ (-exponent).toNat)

/-- The order of numbers. A pattern that is not a number is below, above and equal to none. -/
def lt (x y : Binary format) : Bool :=
  match x.datum, y.datum with
  | .nan, _ => false
  | _, .nan => false
  | .infinite negative, .infinite other => negative && !other
  | .infinite negative, .finite .. => negative
  | .finite .., .infinite negative => !negative
  | .finite .., .finite .. => decide (x.toRat < y.toRat)

/-- Equality of numbers: both zeros are equal, and a pattern that is not a number equals none. -/
def same (x y : Binary format) : Bool :=
  !x.isNaN && !y.isNaN && (x.bits == y.bits || (x.isZero && y.isZero))

def toInt? (x : Binary format) : Option Int :=
  if x.isFinite && x.toRat.den = 1 then some x.toRat.num else none

def truncate (x : Binary format) : Int := x.toRat.num.tdiv x.toRat.den

end Binary

end RelationQuery
