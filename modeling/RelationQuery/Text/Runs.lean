import RelationQuery.Text.CharSet

/-!
# Tables of runs

Properties of characters change seldom along the code points, so a table holds the lengths of the
runs on which a property is constant. Tables are written in hexadecimal: numbers apart by points, or
each behind the letter or the code of its value.
-/

namespace RelationQuery.Text

def hexDigitValue (c : Char) : Nat :=
  if c.isDigit then c.toNat - '0'.toNat else c.toNat - 'a'.toNat + 10

def isHexDigit (c : Char) : Bool := c.isDigit || ('a' ≤ c && c ≤ 'f')

def hexNumber (digits : List Char) : Nat :=
  digits.foldl (fun n c => n * 16 + hexDigitValue c) 0

/-- The length of a run by its digits; without digits it is one. -/
def runLength (digits : List Char) : Nat := if digits.isEmpty then 1 else hexNumber digits

def joined (lines : List String) : List Char := lines.flatMap String.toList

def entries (lines : List String) : List (List Char) :=
  lines.flatMap fun line => line.toList.splitOnP (· == ' ')

def pointedNumbers (entry : List Char) : List Nat := (entry.splitOnP (· == '.')).map hexNumber

/-! ## Sets -/

def placesBehind : Nat → List Nat → List Nat
  | _, [] => []
  | place, length :: rest => (place + length) :: placesBehind (place + length) rest

/-- The characters of a property, by the lengths of the runs without and with it by turns. -/
def CharSet.ofRuns (lines : List String) : CharSet :=
  .intersection .any ⟨placesBehind 0 (pointedNumbers (joined lines))⟩

/-! ## Properties with several values -/

/-- The values of a property along the code points, with the lengths of their runs. -/
structure RunTable (α : Type) where
  runs : List (α × Nat)

namespace RunTable

variable {α : Type}

def valueAt : List (α × Nat) → Nat → Option α
  | [], _ => none
  | (value, length) :: rest, n => if n < length then some value else valueAt rest (n - length)

def value? (table : RunTable α) (c : Char) : Option α := valueAt table.runs c.toNat

/-- The places from `place` on where it changes whether the value is wanted. -/
def changesWhere (wanted : α → Bool) : Bool → Nat → List (α × Nat) → List Nat
  | inside, place, [] => if inside then [place] else []
  | inside, place, (value, length) :: rest =>
      if wanted value == inside then changesWhere wanted inside (place + length) rest
      else place :: changesWhere wanted (!inside) (place + length) rest

def set (table : RunTable α) (wanted : α → Bool) : CharSet :=
  .intersection .any ⟨changesWhere wanted false 0 table.runs⟩

end RunTable

/-- Cuts text in front of every character that starts a group. -/
def groupsFrom (starts : Char → Bool) : List Char → List (List Char)
  | [] => []
  | c :: rest =>
      match groupsFrom starts rest with
      | (first :: others) :: groups =>
          if starts first then [c] :: (first :: others) :: groups
          else (c :: first :: others) :: groups
      | groups => [c] :: groups

def RunTable.ofLetters (lines : List String) : RunTable Char :=
  ⟨(groupsFrom (fun c => !isHexDigit c) (joined lines)).filterMap fun group =>
    match group with
    | letter :: digits => some (letter, runLength digits)
    | [] => none⟩

/-- A table of runs whose values are codes of four letters, the first of which is large. -/
def RunTable.ofCodes (lines : List String) : RunTable String :=
  ⟨(groupsFrom Char.isUpper (joined lines)).map fun group =>
    (String.ofList (group.take 4), runLength (group.drop 4))⟩

end RelationQuery.Text
