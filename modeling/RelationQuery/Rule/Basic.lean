import RelationQuery.Binary.Text

/-!
# Rules

A rule says how one named value of loosely typed input has to look.
-/

namespace RelationQuery

inductive RuleKind where
  | string
  | number
  | boolean
  | dateTime
  | date
  | time
  | id
  deriving DecidableEq, Repr

def RuleKind.words : List (String × RuleKind) :=
  [("string", .string), ("number", .number), ("boolean", .boolean), ("date-time", .dateTime),
    ("date", .date), ("time", .time), ("id", .id)]

structure Rule where
  /-- The name that messages use. -/
  name : String
  kind : RuleKind
  required : Bool := false
  /-- The least length of a string, or the least number. -/
  min : Option Double := none
  /-- The greatest length of a string, or the greatest number. -/
  max : Option Double := none
  /-- A pattern that a string has to match. -/
  pattern : Option String := none
  /-- The body of a class that every character of a string has to belong to. -/
  allowedChars : Option String := none
  /-- How many digits may stand behind the point of a number. -/
  decimals : Option Nat := none
  uppercase : Bool := false
  lowercase : Bool := false
  /-- With a step of one, numbers given as text become whole. -/
  step : Option Double := none
  deriving DecidableEq, Repr

end RelationQuery
