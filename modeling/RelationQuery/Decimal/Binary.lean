import RelationQuery.Binary.Format
import RelationQuery.Decimal.Basic

/-!
# Decimal and binary numbers

From binary to decimal, a number keeps as many decimal digits as its format is sure of, and no zeros
behind the point. From decimal to binary, the whole and the fractional part are rounded, added, and
brought back to the scale of the decimal number.
-/

namespace RelationQuery.Decimal

/-- A mantissa and the power of ten it stands at, on the way from a power of two. -/
structure Scaling where
  mantissa : Nat
  exponent : Int
  deriving DecidableEq, Repr

namespace Scaling

/-- Divides by two, `count` times: exactly while the mantissa is even, else by five tenths while the
mantissa fits, else with loss. -/
def halve : Nat → Scaling → Scaling
  | 0, s => s
  | count + 1, s =>
      if s.mantissa % 2 = 0 then halve count ⟨s.mantissa / 2, s.exponent + 1⟩
      else if s.mantissa * 5 < mantissaLimit then halve count ⟨s.mantissa * 5, s.exponent⟩
      else halve count ⟨s.mantissa / 2, s.exponent + 1⟩

/-- Multiplies by two, `count` times: directly while the mantissa fits, else by ten fifths with
loss. -/
def double : Nat → Scaling → Scaling
  | 0, s => s
  | count + 1, s =>
      if s.mantissa < 2 ^ 95 then double count ⟨s.mantissa * 2, s.exponent - 1⟩
      else double count ⟨s.mantissa / 5, s.exponent⟩

def whole? : Nat → Nat → Option Nat
  | 0, mantissa => some mantissa
  | count + 1, mantissa =>
      if mantissa * 10 < mantissaLimit then whole? count (mantissa * 10) else none

def dropDigit (mantissa : Nat) : Nat := mantissa / 10 + if 5 ≤ mantissa % 10 then 1 else 0

/-- Drops `count` digits; a number that vanishes is zero without digits behind the point. -/
def toScale : Nat → Nat → Nat → Nat × Nat
  | 0, mantissa, scale => (mantissa, scale)
  | count + 1, mantissa, scale =>
      if mantissa / 10 = 0 then (0, 0) else toScale count (dropDigit mantissa) scale

def toPrecision (limit : Nat) : Nat → Nat → Nat × Nat
  | mantissa, 0 => (mantissa, 0)
  | mantissa, scale + 1 =>
      if limit ≤ mantissa then toPrecision limit (dropDigit mantissa) scale
      else (mantissa, scale + 1)

end Scaling

def precisionLimit (format : Format) : Nat :=
  if format.fractionBits = 52 then 2 ^ 52 else 2 ^ 24

def ofScaled? (limit : Nat) (negative : Bool) (significand : Nat) (exponent : Int) :
    Option Decimal :=
  if significand = 0 then ofParts? negative 0 0
  else
    let start : Scaling := ⟨significand, exponent⟩
    let ten :=
      if exponent ≤ 0 then Scaling.halve (-exponent).toNat start
      else Scaling.double exponent.toNat start
    if 0 < ten.exponent then do
      ofParts? negative (← Scaling.whole? ten.exponent.toNat ten.mantissa) 0
    else
      let places := (-ten.exponent).toNat
      let (mantissa, scale) :=
        Scaling.toScale (places - scaleMax) ten.mantissa (min places scaleMax)
      let (mantissa, scale) := Scaling.toPrecision limit mantissa scale
      let (mantissa, scale) := stripZeros mantissa scale
      ofParts? negative mantissa scale

def ofBinary? {format : Format} (x : Binary format) : Option Decimal :=
  match x.datum with
  | .finite negative significand exponent =>
      ofScaled? (precisionLimit format) negative significand exponent
  | _ => none

/-- The nearest whole number, halves away from zero, of a value that is not negative. -/
def roundHalfUp (value : Rat) : Nat := ((2 * value.num + value.den) / (2 * value.den)).toNat

def magnitudeToDouble (mantissa scale : Nat) : Double :=
  let power := Binary.ofInt .double (10 ^ scale)
  let whole := Binary.ofInt .double (mantissa / 10 ^ scale : Nat)
  let fraction :=
    Binary.ofRat .double
      ((Binary.ofInt .double (mantissa % 10 ^ scale : Nat)).toRat / power.toRat)
  if fraction.isZero then whole
  else
    let sum := Binary.ofRat .double (whole.toRat + fraction.toRat)
    let scaled := Binary.ofRat .double (sum.toRat * power.toRat)
    Binary.ofRat .double ((Binary.ofInt .double (roundHalfUp scaled.toRat)).toRat / power.toRat)

def toDouble (d : Decimal) : Double :=
  if d.scale = 0 then Binary.ofInt .double d.signed
  else
    let magnitude := magnitudeToDouble d.mantissa d.scale
    if d.negative then magnitude.neg else magnitude

end RelationQuery.Decimal
