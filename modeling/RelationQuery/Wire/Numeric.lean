import RelationQuery.Decimal.Basic
import RelationQuery.Wire.Bytes

/-!
# Decimal numbers on the wire

A `numeric` is a list of digits to base 10000 with the weight of the first of them, a sign, and the
number of decimal places to show.
-/

namespace RelationQuery.Wire

structure Numeric where
  weight : Int
  sign : Nat
  scale : Nat
  groups : List Nat
  deriving DecidableEq, Repr

namespace Numeric

def base : Nat := 10000

def negativeSign : Nat := 0x4000

/-- The signs of numbers that are not finite. -/
def specialSigns : List Nat := [0xC000, 0xD000, 0xF000]

/-- The digits of a number to base 10000. -/
def groupsOf (n : Nat) : List Nat :=
  if 0 < n then groupsOf (n / base) ++ [n % base] else []
termination_by n
decreasing_by
  rename_i positive
  exact Nat.div_lt_self positive (by decide)

def dropZeros (groups : List Nat) : List Nat := (groups.reverse.dropWhile (· == 0)).reverse

/-- The form of a decimal number. Zeros behind the point are dropped where the number has a digit
before it. -/
def ofDecimal (d : Decimal) : Numeric :=
  if d.isZero then ⟨0, 0, 0, []⟩
  else
    let groups := groupsOf (d.mantissa * 10 ^ ((4 - d.scale % 4) % 4))
    let weight : Int := (groups.length : Int) - ((d.scale + 3) / 4 : Nat) - 1
    let whole := (weight + 1).toNat
    { weight
      sign := if d.negative then negativeSign else 0
      scale := d.scale
      groups :=
        if 0 ≤ weight then groups.take whole ++ dropZeros (groups.drop whole) else groups }

abbrev Unsigned := Nat × Nat

/-- The nearest mantissa at a smaller scale, halves to even. -/
def roundOff (places mantissa : Nat) : Nat :=
  let unit := 10 ^ places
  let quotient := mantissa / unit
  let twice := 2 * (mantissa % unit)
  if twice < unit then quotient
  else if unit < twice then quotient + 1
  else quotient + quotient % 2

/-- The number at the greatest scale at which its mantissa fits. -/
def fitted? (mantissa scale : Nat) : Option Unsigned :=
  (List.range (scale + 1)).findSome? fun places =>
    let rounded := roundOff places mantissa
    if rounded < Decimal.mantissaLimit then some (rounded, scale - places) else none

/-- The sum of two numbers, rounded where it does not fit. -/
def sum? (a b : Unsigned) : Option Unsigned :=
  let scale := max a.2 b.2
  fitted? (a.1 * 10 ^ (scale - a.2) + b.1 * 10 ^ (scale - b.2)) scale

/-- The number of the digits before the point, `missing` of which are zeros that were not sent. -/
def wholeOf? (groups : List Nat) (missing : Nat) : Option Nat := do
  let whole ← groups.foldlM (fun whole group =>
    let next := whole * base + group
    if next < Decimal.mantissaLimit then some next else none) 0
  if 7 < missing then none
  else
    let shifted := whole * base ^ missing
    if shifted < Decimal.mantissaLimit then some shifted else none

/-- Adds the digits behind the point, the first of which ends at decimal place `place`. Those that
end behind place 28 are dropped, but for the next one, which rounds. -/
def addFraction? : Nat → Unsigned → List Nat → Option Unsigned
  | _, number, [] => some number
  | place, number, group :: rest => do
      let number ←
        if place ≤ Decimal.scaleMax then sum? number (Decimal.stripZeros group place)
        else if place = Decimal.scaleMax + 4 ∧ 5000 ≤ group then
          sum? number (1, Decimal.scaleMax)
        else some number
      addFraction? (place + 4) number rest

def toDecimal? (n : Numeric) : Option Decimal :=
  if n.sign ∈ specialSigns then none
  else do
    let wholeCount := (n.weight + 1).toNat
    let whole ← wholeOf? (n.groups.take wholeCount) (wholeCount - n.groups.length)
    let place := 4 * ((-n.weight - 1).toNat + 1)
    let (mantissa, scale) ← addFraction? place (whole, 0) (n.groups.drop wholeCount)
    let (mantissa, scale) := Decimal.rescaled mantissa scale n.scale
    Decimal.ofParts? (n.sign == negativeSign) mantissa scale

def encode (n : Numeric) : List UInt8 :=
  bigEndian 2 n.groups.length ++ signedBytes 2 n.weight ++ bigEndian 2 n.sign ++
    bigEndian 2 n.scale ++ n.groups.flatMap (bigEndian 2)

def cutGroups? : Nat → List UInt8 → Option (List Nat)
  | 0, _ => some []
  | count + 1, bytes => do
      let (group, rest) ← cutWord? 2 bytes
      let groups ← cutGroups? count rest
      some (group :: groups)

/-- Reads a form; what stands behind the last digit is ignored. -/
def decode? (bytes : List UInt8) : Option Numeric := do
  let (count, rest) ← cutWord? 2 bytes
  let (weight, rest) ← cutSigned? 2 rest
  let (sign, rest) ← cutWord? 2 rest
  let (scale, rest) ← cutWord? 2 rest
  let groups ← cutGroups? count rest
  some ⟨weight, sign, scale, groups⟩

end Numeric

end RelationQuery.Wire
