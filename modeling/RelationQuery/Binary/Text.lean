import RelationQuery.Binary.Shortest

/-!
# Writing binary numbers

The digits of a number in one of several layouts: as plain text, as JSON, and as shown in messages.
-/

namespace RelationQuery.Binary

structure Layout where
  /-- The exponents of the first digit that are written without an exponent mark. -/
  positional : Int → Bool
  /-- Whether whole numbers without an exponent mark end in `.0`. -/
  keepsPoint : Bool
  /-- Whether an exponent that is not negative has a sign. -/
  signsExponent : Bool
  tie : Tie

/-- Plain text has no exponent at all. -/
def Layout.plain : Layout := ⟨fun _ => true, false, false, .up⟩

/-- JSON numbers are positional from `1e-5` up to, not including, `1e16`. -/
def Layout.json : Layout := ⟨fun e => -5 ≤ e && e < 16, true, true, .toEven⟩

/-- JSON numbers of single precision are positional from `1e-6` up to, not including, `1e13`. -/
def Layout.jsonSingle : Layout := ⟨fun e => -6 ≤ e && e < 13, true, true, .toEven⟩

/-- Messages are positional from `1e-4` up to, not including, `1e16`. -/
def Layout.shown : Layout := ⟨fun e => -4 ≤ e && e < 16, true, false, .up⟩

namespace Layout

def positionalText (layout : Layout) (number : DecimalDigits) : List Char :=
  let digits := Nat.toDigits 10 number.digits
  if 0 ≤ number.exponent then
    digits ++ List.replicate number.exponent.toNat '0' ++
      if layout.keepsPoint then ['.', '0'] else []
  else
    let places := (-number.exponent).toNat
    if places < digits.length then
      digits.take (digits.length - places) ++ '.' :: digits.drop (digits.length - places)
    else '0' :: '.' :: List.replicate (places - digits.length) '0' ++ digits

def scientificText (layout : Layout) (number : DecimalDigits) (leading : Int) : List Char :=
  let mantissa := match Nat.toDigits 10 number.digits with
    | [] => []
    | [digit] => [digit]
    | digit :: rest => digit :: '.' :: rest
  let sign := if leading < 0 then ['-'] else if layout.signsExponent then ['+'] else []
  mantissa ++ 'e' :: sign ++ Nat.toDigits 10 leading.natAbs

def magnitudeText (layout : Layout) (number : DecimalDigits) : List Char :=
  let leading := number.exponent + (Nat.toDigits 10 number.digits).length - 1
  if layout.positional leading then layout.positionalText number
  else layout.scientificText number leading

end Layout

def text {format : Format} (layout : Layout) (x : Binary format) : List Char :=
  match x.datum with
  | .nan => ['N', 'a', 'N']
  | .infinite negative => (if negative then ['-'] else []) ++ ['i', 'n', 'f']
  | .finite negative significand exponent =>
      (if negative then ['-'] else []) ++
        if significand = 0 then layout.positionalText ⟨0, 0⟩
        else layout.magnitudeText (shortest format layout.tie significand exponent)

end RelationQuery.Binary
