/-!
# Numbers in text

Runs of ASCII digits, written with a least width and cut from the front of a text, and integers: an
optional sign and at least one digit. The digits of an integer are read from the left, so the first
character that is no digit, or the first digit that leaves the range, decides the failure.
-/

namespace RelationQuery

/-- The recursive power, preferred to every other one, also where the powers of monoids are in
sight. -/
@[default_instance 20000]
instance (priority := 2000) natPower {α : Type} [NatPow α] : Pow α Nat := instPowNat

end RelationQuery

namespace RelationQuery.Text

/-! ## Runs of digits -/

def digitValue (c : Char) : Nat := c.toNat - '0'.toNat

def digitsValue (digits : List Char) : Nat := Nat.ofDigitChars 10 digits 0

/-- The digits of a number, with zeros in front up to a width. -/
def padded (width n : Nat) : List Char :=
  let digits := Nat.toDigits 10 n
  List.replicate (width - digits.length) '0' ++ digits

/-- The digits in front of a text, at most `count`, and the rest. -/
def cutDigits : Nat → List Char → List Char × List Char
  | _, [] => ([], [])
  | 0, text => ([], text)
  | count + 1, c :: rest =>
      if c.isDigit then ((c :: (cutDigits count rest).1), (cutDigits count rest).2)
      else ([], c :: rest)

def cutNumber? (count : Nat) (text : List Char) : Option (Nat × List Char) :=
  let (digits, rest) := cutDigits count text
  if digits.length = count then some (digitsValue digits, rest) else none

def cutChar? (c : Char) : List Char → Option (List Char)
  | [] => none
  | first :: rest => if first = c then some rest else none

theorem cutDigits_append (count : Nat) (text : List Char) :
    (cutDigits count text).1 ++ (cutDigits count text).2 = text := by
  induction count generalizing text with
  | zero => cases text <;> rfl
  | succ count ih =>
      cases text with
      | nil => rfl
      | cons c rest =>
          by_cases digit : c.isDigit = true
          · simp [cutDigits, digit, ih]
          · simp [cutDigits, digit]

/-! ## Integers -/

inductive IntegerError where
  | empty
  | invalidDigit
  | tooLarge
  | tooSmall
  deriving DecidableEq, Repr

def IntegerError.message : IntegerError → String
  | .empty => "cannot parse integer from empty string"
  | .invalidDigit => "invalid digit found in string"
  | .tooLarge => "number too large to fit in target type"
  | .tooSmall => "number too small to fit in target type"

/-- Appends digits to a magnitude that stays within `limit`. -/
def readMagnitude (limit : Nat) (overflow : IntegerError) :
    Nat → List Char → Except IntegerError Nat
  | magnitude, [] => .ok magnitude
  | magnitude, c :: rest =>
      if !c.isDigit then .error .invalidDigit
      else
        let next := magnitude * 10 + digitValue c
        if next ≤ limit then readMagnitude limit overflow next rest else .error overflow

def readDigits (limit : Nat) (overflow : IntegerError) (digits : List Char) :
    Except IntegerError Nat :=
  if digits.isEmpty then .error .invalidDigit else readMagnitude limit overflow 0 digits

def readInt64 (text : List Char) : Except IntegerError Int :=
  match text with
  | [] => .error .empty
  | '-' :: digits => (readDigits (2 ^ 63) .tooSmall digits).map fun n => -(n : Int)
  | '+' :: digits => (readDigits (2 ^ 63 - 1) .tooLarge digits).map Int.ofNat
  | digits => (readDigits (2 ^ 63 - 1) .tooLarge digits).map Int.ofNat

def readNat64 (text : List Char) : Except IntegerError Nat :=
  match text with
  | [] => .error .empty
  | '+' :: digits => readDigits (2 ^ 64 - 1) .tooLarge digits
  | digits => readDigits (2 ^ 64 - 1) .tooLarge digits

end RelationQuery.Text
