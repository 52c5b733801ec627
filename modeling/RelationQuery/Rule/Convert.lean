import RelationQuery.Calendar.Read
import RelationQuery.Rule.Validate
import RelationQuery.Value.Document
import RelationQuery.Wire.Coercion

/-!
# Conversion

A value that passes its rule is brought to the type of the rule: text is trimmed and its case
changed, numerals become numbers, and dates, times and identifiers are read.
-/

namespace RelationQuery

/-- The whole part of a number as a word of 64 bits; what does not fit becomes the nearest word, and
what is no number zero. -/
def truncateInt64 (x : Double) : Int64 :=
  match x.datum with
  | .nan => 0
  | .infinite negative => if negative then Int64.minValue else Int64.maxValue
  | .finite .. => .ofInt (max (-2 ^ 63) (min x.truncate (2 ^ 63 - 1)))

namespace Rule

/-- The text of a string rule, trimmed and in the case that the rule wants. -/
def convertText (rule : Rule) (text : List Char) : List Char :=
  let upper := if rule.uppercase then Text.upper text else text
  if rule.lowercase then Text.lower upper else upper

def one : Double := .ofInt .double 1

def isWholeStep (rule : Rule) : Bool := rule.step.any (·.same one)

def convertNumber (rule : Rule) (value : Json) : Except Violation Value :=
  match value with
  | .string s =>
      match Binary.read .double (Text.trim s.toList) with
      | .ok x => .ok (if rule.isWholeStep then .int64 (truncateInt64 x) else .float64 x)
      | .error _ => .error (rule.invalid "eb718877-e6bb-5754-9ef0-c281f3d78273")
  | other => .ok (.ofJson other)

def convertMoment (rule : Rule) (value : Json) : Except Violation Timestamp :=
  match value with
  | .string s =>
      match Timestamp.read? s.toList with
      | some moment => .ok moment
      | none => .error (rule.invalid "e3bc3352-9f36-53c5-960f-db53b436246a")
  | _ => .error (rule.invalid "e3bc3352-9f36-53c5-960f-db53b436246a")

def convertId (rule : Rule) (value : Json) : Except Violation Uuid :=
  match value with
  | .string s =>
      match Uuid.read? s.toList with
      | some id => .ok id
      | none => .error (rule.invalid "ee6797a3-9ade-5171-b9ca-325f66dd9db4")
  | _ => .error (rule.invalid "ee6797a3-9ade-5171-b9ca-325f66dd9db4")

def isTrue : Json → Bool
  | .bool b => b
  | .string s => s == "true"
  | _ => false

def convertPresent (rule : Rule) (value : Json) : Except Violation Value :=
  match rule.kind with
  | .string =>
      let text := match value with
        | .string s => Text.trim s.toList
        | other => other.text
      .ok (.text (String.ofList (rule.convertText text)))
  | .number => rule.convertNumber value
  | .boolean => .ok (.bool (isTrue value))
  | .dateTime => (rule.convertMoment value).map .timestamp
  | .date => (rule.convertMoment value).map fun moment => .date moment.date
  | .time => .ok (.ofJson value)
  | .id => (rule.convertId value).map .uuid

/-- Checks a value and converts it; a value that is not there becomes null. -/
def convert (rule : Rule) (value : Option Json) : Except Violation Value := do
  rule.validate value
  match present? value with
  | none => return .null
  | some value => rule.convertPresent value

end Rule

/-- A truth value, or its word in any letter case. -/
def toBoolean (value : Json) : Except Violation Bool :=
  let refused : Violation := ⟨"Invalid boolean", "8c55912d-9ecb-5933-a37f-6b1041fe070a"⟩
  match value with
  | .bool b => .ok b
  | .string s =>
      match Wire.readBool? s.toList with
      | some b => .ok b
      | none => .error refused
  | _ => .error refused

end RelationQuery
