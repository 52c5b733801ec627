import RelationQuery.Binary.Read
import RelationQuery.Json.Basic

/-!
# Reading JSON numbers

A number without fraction and exponent is whole if it fits. Any other is read as a significand, the
leading digits that fit 64 bits, and a power of ten; the two are rounded to double precision one
after the other, and their product or quotient once more.
-/

namespace RelationQuery.Json

def significandMax : Nat := 2 ^ 64 - 1

/-- The digits read so far and the power of ten they stand at. -/
structure Scaled where
  significand : Nat
  exponent : Int
  deriving DecidableEq, Repr

namespace Scaled

def digitValue (c : Char) : Nat := c.toNat - '0'.toNat

/-- Takes digits before the point: once one does not fit, it and all behind it count as zeros. -/
def takeWhole (number : Scaled) : List Char → Scaled
  | [] => number
  | digit :: rest =>
      let next := number.significand * 10 + digitValue digit
      if next ≤ significandMax then takeWhole ⟨next, number.exponent⟩ rest
      else ⟨number.significand, number.exponent + (digit :: rest).length⟩

/-- Takes digits behind the point: once one does not fit, it and all behind it are dropped. -/
def takeFraction (number : Scaled) : List Char → Scaled
  | [] => number
  | digit :: rest =>
      let next := number.significand * 10 + digitValue digit
      if next ≤ significandMax then takeFraction ⟨next, number.exponent - 1⟩ rest
      else number

def powerOfTen (places : Nat) : Double := Binary.ofInt .double (10 ^ places)

/-- Divides by ten to the power `places`, by the greatest power of double precision at a time. -/
def shrink (x : Double) (places : Nat) : Double :=
  if x.isZero then x
  else if places ≤ 308 then Binary.ofRat .double (x.toRat / (powerOfTen places).toRat)
  else shrink (Binary.ofRat .double (x.toRat / (powerOfTen 308).toRat)) (places - 308)
termination_by places

def magnitude? (number : Scaled) : Option Double :=
  let start := Binary.ofInt .double number.significand
  if number.exponent < 0 then some (shrink start (-number.exponent).toNat)
  else if start.isZero then some start
  else if 308 < number.exponent then none
  else
    let product :=
      Binary.ofRat .double (start.toRat * (powerOfTen number.exponent.toNat).toRat)
    if product.isFinite then some product else none

def toDouble? (negative : Bool) (number : Scaled) : Option Double :=
  number.magnitude?.map fun x => if negative then x.neg else x

end Scaled

/-- The number of a whole numeral. Minus zero, and what does not fit a word, is floating. -/
def wholeNumber? (negative : Bool) (digits : List Char) : Option Number :=
  let size := Nat.ofDigitChars 10 digits 0
  if !negative && size ≤ significandMax then some (.whole size)
  else if negative && 0 < size && size ≤ 2 ^ 63 then some (.whole (-size))
  else ((Scaled.takeWhole ⟨0, 0⟩ digits).toDouble? negative).map .float

/-- The greatest exponent that is counted; beyond it a number is zero or too large. -/
def exponentMax : Nat := 2 ^ 31 - 1

def applyExponent? (negative shrinks : Bool) (exponent : Nat) (number : Scaled) : Option Number :=
  if exponent ≤ exponentMax then
    let shifted := if shrinks then number.exponent - exponent else number.exponent + exponent
    (Scaled.toDouble? negative ⟨number.significand, shifted⟩).map .float
  else if number.significand ≠ 0 && !shrinks then none
  else some (.float (Binary.zero .double negative))

def readExponent? (negative : Bool) (number : Scaled) : List Char → Option (Number × List Char)
  | [] => (number.toDouble? negative).map fun x => (.float x, [])
  | c :: rest =>
      if c == 'e' || c == 'E' then
        let (shrinks, tail) := Binary.splitSign rest
        let digits := Binary.digitsOf tail
        if digits.isEmpty then none
        else
          (applyExponent? negative shrinks (Nat.ofDigitChars 10 digits 0) number).map fun n =>
            (n, Binary.afterDigits tail)
      else (number.toDouble? negative).map fun x => (.float x, c :: rest)

/-- Reads a number without its sign: no leading zeros, and digits on both sides of a point. -/
def readMagnitude? (negative : Bool) (text : List Char) : Option (Number × List Char) :=
  let digits := Binary.digitsOf text
  let scaled := Scaled.takeWhole ⟨0, 0⟩ digits
  if digits.isEmpty || (digits.head? == some '0' && 1 < digits.length) then none
  else
    match Binary.afterDigits text with
    | [] => (wholeNumber? negative digits).map fun n => (n, [])
    | c :: rest =>
        if c == '.' then
          let fraction := Binary.digitsOf rest
          if fraction.isEmpty then none
          else readExponent? negative (scaled.takeFraction fraction) (Binary.afterDigits rest)
        else if c == 'e' || c == 'E' then readExponent? negative scaled (c :: rest)
        else (wholeNumber? negative digits).map fun n => (n, c :: rest)

def readNumber? : List Char → Option (Number × List Char)
  | '-' :: rest => readMagnitude? true rest
  | text => readMagnitude? false text

end RelationQuery.Json
