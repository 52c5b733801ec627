import RelationQuery.Binary.Format

/-!
# Reading binary numbers

A numeral has an optional sign, digits with an optional point and at least one digit around it, and
an optional exponent; the infinities and the non-number have words of their own, in any letter case.
The result is the number nearest to what the text says.
-/

namespace RelationQuery.Binary

inductive ReadError where
  | empty
  | invalid
  deriving DecidableEq, Repr

def ReadError.message : ReadError → String
  | .empty => "cannot parse float from empty string"
  | .invalid => "invalid float literal"

/-- The number `digits * 10 ^ exponent`. -/
structure Numeral where
  digits : Nat
  exponent : Int
  deriving DecidableEq, Repr

def splitSign : List Char → Bool × List Char
  | '-' :: rest => (true, rest)
  | '+' :: rest => (false, rest)
  | rest => (false, rest)

def digitsOf (text : List Char) : List Char := text.takeWhile Char.isDigit

def afterDigits (text : List Char) : List Char := text.dropWhile Char.isDigit

/-- The exponent at the end of a numeral: zero where there is none. -/
def exponentOf? : List Char → Option Int
  | [] => some 0
  | c :: rest =>
      if c == 'e' || c == 'E' then
        let (negative, digits) := splitSign rest
        if !digits.isEmpty && digits.all Char.isDigit then
          let size : Int := Nat.ofDigitChars 10 digits 0
          some (if negative then -size else size)
        else none
      else none

def numeral? (text : List Char) : Option Numeral :=
  let whole := digitsOf text
  let (fraction, rest) := match afterDigits text with
    | '.' :: tail => (digitsOf tail, afterDigits tail)
    | tail => ([], tail)
  if whole.isEmpty && fraction.isEmpty then none
  else
    (exponentOf? rest).map fun exponent =>
      ⟨Nat.ofDigitChars 10 (whole ++ fraction) 0, exponent - fraction.length⟩

/-- The nearest number. An exponent far outside the format decides without the digits. -/
def ofNumeral (format : Format) (negative : Bool) (numeral : Numeral) : Binary format :=
  let leading := numeral.exponent + (Nat.toDigits 10 numeral.digits).length
  if numeral.digits = 0 ∨ leading < -400 then zero format negative
  else if 400 < leading then infinity format negative
  else if 0 ≤ numeral.exponent then
    ofRatio format negative (numeral.digits * 10 ^ numeral.exponent.toNat) 1
  else ofRatio format negative numeral.digits (10 ^ (-numeral.exponent).toNat)

def ofWord? (format : Format) (negative : Bool) (word : List Char) : Option (Binary format) :=
  match String.ofList (word.map Char.toLower) with
  | "inf" => some (infinity format negative)
  | "infinity" => some (infinity format negative)
  | "nan" => some (nan format negative)
  | _ => none

def read (format : Format) (text : List Char) : Except ReadError (Binary format) :=
  if text.isEmpty then .error .empty
  else
    let (negative, rest) := splitSign text
    match numeral? rest with
    | some numeral => .ok (ofNumeral format negative numeral)
    | none =>
        match ofWord? format negative rest with
        | some x => .ok x
        | none => .error .invalid

end RelationQuery.Binary
