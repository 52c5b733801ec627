import RelationQuery.Binary.Format

/-!
# The fewest digits that read back

Among the decimal numbers that round to a given binary number, those with the fewest digits are
looked for, and of these the one nearest to it. For one digit, two digits and so on the two
neighbours on the decimal grid are tested in exact arithmetic; the first grid with a hit wins.
-/

namespace RelationQuery.Binary

/-- How to choose between two candidates that are equally near. -/
inductive Tie where
  | toEven
  | up
  deriving DecidableEq, Repr

/-- The decimal number `digits * 10 ^ exponent`. -/
structure DecimalDigits where
  digits : Nat
  exponent : Int
  deriving DecidableEq, Repr

/-- A positive number and the ends of the interval that rounds to it, over one denominator. -/
structure Neighbourhood where
  low : Nat
  value : Nat
  high : Nat
  den : Nat
  /-- Whether the ends round to the number as well. -/
  closed : Bool
  deriving DecidableEq, Repr

/-- The interval of `significand * 2 ^ exponent`: half a step on either side, and only a quarter
below a power of two that has a finer grid under it. -/
def neighbourhood (format : Format) (significand : Nat) (exponent : Int) : Neighbourhood :=
  let narrow := significand = 2 ^ format.fractionBits ∧ format.minExponent < exponent
  let factor := if 2 ≤ exponent then 2 ^ (exponent - 2).toNat else 1
  { low := (4 * significand - if narrow then 1 else 2) * factor
    value := 4 * significand * factor
    high := (4 * significand + 2) * factor
    den := if 2 ≤ exponent then 1 else 2 ^ (2 - exponent).toNat
    closed := significand % 2 = 0 }

namespace Neighbourhood

def leadingExponent (near : Neighbourhood) : Int :=
  if near.den ≤ near.value then ((Nat.toDigits 10 (near.value / near.den)).length : Int) - 1
  else
    let places := (Nat.toDigits 10 (near.den / near.value)).length - 1
    if near.value * 10 ^ places = near.den then -(places : Int) else -(places : Int) - 1

/-- Whether `digits * 10 ^ exponent` rounds to the value. -/
def reaches (near : Neighbourhood) (digits : Nat) (exponent : Int) : Bool :=
  let up := if 0 ≤ exponent then 10 ^ exponent.toNat else 1
  let down := if 0 ≤ exponent then 1 else 10 ^ (-exponent).toNat
  let candidate := digits * up * near.den
  if near.closed then near.low * down ≤ candidate && candidate ≤ near.high * down
  else near.low * down < candidate && candidate < near.high * down

def units (near : Neighbourhood) (exponent : Int) : Nat × Nat :=
  if 0 ≤ exponent then (near.value, near.den * 10 ^ exponent.toNat)
  else (near.value * 10 ^ (-exponent).toNat, near.den)

def hit? (near : Neighbourhood) (tie : Tie) (exponent : Int) : Option Nat :=
  let (num, den) := near.units exponent
  let below := num / den
  let twice := 2 * (num % den)
  match near.reaches below exponent, near.reaches (below + 1) exponent with
  | false, false => none
  | true, false => some below
  | false, true => some (below + 1)
  | true, true =>
      if twice < den then some below
      else if den < twice then some (below + 1)
      else match tie with
        | .up => some (below + 1)
        | .toEven => some (below + below % 2)

/-- Looks on ever finer grids, of which `fuel` are left. -/
def search (near : Neighbourhood) (tie : Tie) : Nat → Int → DecimalDigits
  | 0, exponent => ⟨(near.units exponent).1 / (near.units exponent).2, exponent⟩
  | fuel + 1, exponent =>
      match near.hit? tie exponent with
      | some digits => ⟨digits, exponent⟩
      | none => search near tie fuel (exponent - 1)

end Neighbourhood

def DecimalDigits.strip (number : DecimalDigits) : DecimalDigits :=
  if number.digits ≠ 0 ∧ number.digits % 10 = 0 then
    strip ⟨number.digits / 10, number.exponent + 1⟩
  else number
termination_by number.digits
decreasing_by
  rename_i divisible
  exact Nat.div_lt_self (Nat.pos_of_ne_zero divisible.1) (by decide)

def shortest (format : Format) (tie : Tie) (significand : Nat) (exponent : Int) : DecimalDigits :=
  let near := neighbourhood format significand exponent
  (near.search tie 17 near.leadingExponent).strip

end RelationQuery.Binary
