import RelationQuery.Decimal.Basic

/-!
# Reading decimal numbers

A numeral has an optional sign, digits with an optional point, and underscores behind a digit; an
exponent may follow. A digit behind the point that no longer fits rounds the number half up and ends
it, whatever follows.
-/

namespace RelationQuery.Decimal

structure Numeral where
  mantissa : Nat := 0
  scale : Nat := 0
  pastPoint : Bool := false
  hasDigit : Bool := false
  deriving DecidableEq, Repr

namespace Numeral

def finish? (negative : Bool) (numeral : Numeral) : Option Decimal :=
  if numeral.hasDigit then ofParts? negative numeral.mantissa numeral.scale else none

/-- Rounds by the first digit that does not fit. A mantissa that overflows gives up a digit. -/
def round? (negative : Bool) (numeral : Numeral) (digit : Nat) : Option Decimal :=
  if digit < 5 then ofParts? negative numeral.mantissa numeral.scale
  else if numeral.mantissa + 1 < mantissaLimit then
    ofParts? negative (numeral.mantissa + 1) numeral.scale
  else if numeral.scale = 0 then none
  else ofParts? negative ((numeral.mantissa + 5) / 10) (numeral.scale - 1)

def push? (numeral : Numeral) (digit : Nat) : Option Numeral :=
  let mantissa := numeral.mantissa * 10 + digit
  let scale := if numeral.pastPoint then numeral.scale + 1 else 0
  if mantissa < mantissaLimit ∧ scale ≤ scaleMax then
    some ⟨mantissa, scale, numeral.pastPoint, true⟩
  else none

def read? (negative : Bool) : Numeral → List Char → Option Decimal
  | numeral, [] => numeral.finish? negative
  | numeral, c :: rest =>
      if c.isDigit then
        let digit := c.toNat - '0'.toNat
        match numeral.push? digit with
        | some longer => read? negative longer rest
        | none => if numeral.pastPoint then numeral.round? negative digit else none
      else if c == '.' && !numeral.pastPoint then
        if rest.isEmpty || numeral.scale ≤ scaleMax then
          read? negative { numeral with pastPoint := true } rest
        else none
      else if c == '_' && numeral.hasDigit then
        if numeral.pastPoint && numeral.scale = scaleMax then numeral.finish? negative
        else read? negative numeral rest
      else none

end Numeral

def readPlain? : List Char → Option Decimal
  | '-' :: rest => Numeral.read? true {} rest
  | '+' :: rest => Numeral.read? false {} rest
  | text => Numeral.read? false {} text

/-- The size of an exponent: digits behind an optional plus sign, in 32 bits. -/
def exponentSize? (text : List Char) : Option Nat :=
  let digits := match text with
    | '+' :: rest => rest
    | _ => text
  if digits.isEmpty || !digits.all Char.isDigit then none
  else
    let size := Nat.ofDigitChars 10 digits 0
    if size < 2 ^ 32 then some size else none

def shiftLeft? (d : Decimal) (places : Nat) : Option Decimal :=
  ofParts? d.negative d.mantissa (d.scale + places)

/-- Moves the point of a number to the right, by 28 places at most. -/
def shiftRight? (d : Decimal) (places : Nat) : Option Decimal :=
  if places ≤ d.scale then ofParts? d.negative d.mantissa (d.scale - places)
  else if scaleMax < places then none
  else ofParts? d.negative (d.mantissa * 10 ^ (places - d.scale)) 0

def isExponentMark (c : Char) : Bool := c == 'e' || c == 'E'

def read? (text : List Char) : Option Decimal :=
  let base := text.takeWhile fun c => !isExponentMark c
  match text.dropWhile fun c => !isExponentMark c with
  | [] => readPlain? text
  | _ :: '-' :: exponent => do
      (← readPlain? base).shiftLeft? (← exponentSize? exponent)
  | _ :: exponent => do
      (← readPlain? base).shiftRight? (← exponentSize? exponent)

end RelationQuery.Decimal
