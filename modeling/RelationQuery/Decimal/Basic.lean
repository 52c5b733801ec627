import RelationQuery.Text.Digits

/-!
# Decimal numbers

A decimal number has a sign, a mantissa of 96 bits and a scale of at most 28: the number of its
digits behind the point. The scale is kept, so `1.5` and `1.50` are equal numbers with different
texts.
-/

namespace RelationQuery

/-- The number `± mantissa / 10 ^ scale`. -/
structure Decimal where
  negative : Bool
  mantissa : Nat
  scale : Nat
  mantissa_lt : mantissa < 2 ^ 96
  scale_le : scale ≤ 28
  deriving DecidableEq, Repr

namespace Decimal

def mantissaLimit : Nat := 2 ^ 96

def scaleMax : Nat := 28

def ofParts? (negative : Bool) (mantissa scale : Nat) : Option Decimal :=
  if fits : mantissa < 2 ^ 96 ∧ scale ≤ 28 then
    some ⟨negative, mantissa, scale, fits.1, fits.2⟩
  else none

def ofInt? (n : Int) : Option Decimal := ofParts? (decide (n < 0)) n.natAbs 0

def signed (d : Decimal) : Int := if d.negative then -(d.mantissa : Int) else d.mantissa

def toRat (d : Decimal) : Rat := mkRat d.signed (10 ^ d.scale)

def same (a b : Decimal) : Bool :=
  a.signed * (10 ^ b.scale : Nat) == b.signed * (10 ^ a.scale : Nat)

def isZero (d : Decimal) : Bool := d.mantissa == 0

def toInt? (d : Decimal) : Option Int :=
  if d.mantissa % 10 ^ d.scale = 0 then some (d.signed.tdiv (10 ^ d.scale : Nat)) else none

/-- The digits of the mantissa, with a point before the last `scale` of them. -/
def text (d : Decimal) : List Char :=
  let digits := Nat.toDigits 10 d.mantissa
  let padded := List.replicate (d.scale + 1 - digits.length) '0' ++ digits
  let whole := padded.take (padded.length - d.scale)
  let fraction := padded.drop (padded.length - d.scale)
  (if d.negative then ['-'] else []) ++ whole ++
    if d.scale = 0 then [] else '.' :: fraction

/-- Drops zeros behind the point, `scale` of them at most. -/
def stripZeros : Nat → Nat → Nat × Nat
  | mantissa, 0 => (mantissa, 0)
  | mantissa, scale + 1 =>
      if mantissa % 10 = 0 then stripZeros (mantissa / 10) scale else (mantissa, scale + 1)

/-- Appends zeros, `count` at most, while the mantissa fits: the mantissa, and the zeros left
over. -/
def appendZeros : Nat → Nat → Nat × Nat
  | mantissa, 0 => (mantissa, 0)
  | mantissa, count + 1 =>
      if mantissa * 10 < 2 ^ 96 then appendZeros (mantissa * 10) count else (mantissa, count + 1)

/-- The mantissa and scale nearest to a new scale: cut digits round half up, and zeros are appended
while they fit. -/
def rescaled (mantissa scale target : Nat) : Nat × Nat :=
  let target := min target scaleMax
  if mantissa = 0 then (0, target)
  else if target < scale then
    let shift := scale - target
    let roundUp := 5 ≤ mantissa / 10 ^ (shift - 1) % 10
    (mantissa / 10 ^ shift + if roundUp then 1 else 0, target)
  else
    let (extended, left) := appendZeros mantissa (target - scale)
    (extended, target - left)

end Decimal

end RelationQuery
