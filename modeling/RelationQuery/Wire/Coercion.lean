import RelationQuery.Binary.Read
import RelationQuery.Calendar.Read
import RelationQuery.Column.Type
import RelationQuery.Decimal.Binary
import RelationQuery.Decimal.Read
import RelationQuery.Text.Digits
import RelationQuery.Text.Utf8
import RelationQuery.Value.Document
import RelationQuery.Value.Shown

/-!
# Bringing a value to a type

Values come loosely typed, from query strings and documents, and are brought to the type that the
server expects: text is read, whole numbers change their width, and what does not fit is refused.
Types without a form of their own take the text of a value.
-/

namespace RelationQuery

inductive Refusal where
  | mismatch (value : Value) (type : ScalarType)
  | integer (cause : Text.IntegerError)
  | float (cause : Binary.ReadError)
  | conversion
  deriving Repr

def Refusal.message : Refusal → String
  | .mismatch value type =>
      "cannot bind " ++ String.ofList value.shown ++ " as " ++ type.label
  | .integer cause => cause.message
  | .float cause => cause.message
  | .conversion => "conversion failed"

namespace Wire

def orElse {α : Type} (refusal : Refusal) : Option α → Except Refusal α
  | some a => .ok a
  | none => .error refusal

def readBool? (text : List Char) : Option Bool :=
  let word := text.map Char.toLower
  if word = ['t', 'r', 'u', 'e'] then some true
  else if word = ['f', 'a', 'l', 's', 'e'] then some false
  else none

def toBool (type : ScalarType) (value : Value) : Except Refusal Bool :=
  orElse (.mismatch value type) <| match value with
    | .bool b => some b
    | .text s => readBool? s.toList
    | _ => none

def wholeInt64? (number : Option Int) : Option Int :=
  number.filter fun n => -2 ^ 63 ≤ n && n < 2 ^ 63

def toInteger (type : ScalarType) (value : Value) : Except Refusal Int :=
  match value with
  | .int16 n => .ok n.toInt
  | .int32 n => .ok n.toInt
  | .int64 n => .ok n.toInt
  | .float32 x => orElse (.mismatch value type) (wholeInt64? x.toInt?)
  | .float64 x => orElse (.mismatch value type) (wholeInt64? x.toInt?)
  | .decimal d => orElse (.mismatch value type) (wholeInt64? d.toInt?)
  | .text s => (Text.readInt64 (Text.trim s.toList)).mapError .integer
  | other => .error (.mismatch other type)

/-- An integer of a type that has `count` bytes. -/
def narrowed (count : Nat) (n : Int) : Except Refusal Int :=
  if 2 ^ (8 * count - 1) ≤ n then .error (.integer .tooLarge)
  else if n < -2 ^ (8 * count - 1) then .error (.integer .tooSmall)
  else .ok n

def toDouble (type : ScalarType) (value : Value) : Except Refusal Double :=
  match value with
  | .int16 n => .ok (Binary.ofInt .double n.toInt)
  | .int32 n => .ok (Binary.ofInt .double n.toInt)
  | .int64 n => .ok (Binary.ofInt .double n.toInt)
  | .float32 x => .ok (x.convert .double)
  | .float64 x => .ok x
  | .decimal d => .ok d.toDouble
  | .text s => (Binary.read .double (Text.trim s.toList)).mapError .float
  | other => .error (.mismatch other type)

def toDecimal (type : ScalarType) (value : Value) : Except Refusal Decimal :=
  match value with
  | .int16 n => orElse .conversion (Decimal.ofInt? n.toInt)
  | .int32 n => orElse .conversion (Decimal.ofInt? n.toInt)
  | .int64 n => orElse .conversion (Decimal.ofInt? n.toInt)
  | .float32 x => orElse .conversion (Decimal.ofBinary? x)
  | .float64 x => orElse .conversion (Decimal.ofBinary? x)
  | .decimal d => .ok d
  | .text s => orElse .conversion (Decimal.read? (Text.trim s.toList))
  | other => .error (.mismatch other type)

def toUuid (type : ScalarType) (value : Value) : Except Refusal Uuid :=
  match value with
  | .uuid id => .ok id
  | .text s => orElse .conversion (Uuid.read? (Text.trim s.toList))
  | other => .error (.mismatch other type)

/-- A moment; a whole number counts seconds. -/
def toTimestamp (type : ScalarType) (value : Value) : Except Refusal Timestamp :=
  orElse (.mismatch value type) <| match value with
    | .timestamp moment => some moment
    | .date day => some (.ofDate day)
    | .int64 n => Timestamp.ofParts? n.toInt 0
    | .text s => Timestamp.read? s.toList
    | _ => none

def toDate (type : ScalarType) (value : Value) : Except Refusal Date :=
  orElse (.mismatch value type) <| match value with
    | .date day => some day
    | .timestamp moment => some moment.date
    | .text s => (Timestamp.read? s.toList).map Timestamp.date
    | _ => none

def toDocument : Value → Json
  | .json document => document
  | other => other.toJson

/-- The text of a value, for types without a form of their own. -/
def toText : Value → List Char
  | .text s => s.toList
  | .bool b => Json.boolText b
  | .int16 n => (toString n.toInt).toList
  | .int32 n => (toString n.toInt).toList
  | .int64 n => (toString n.toInt).toList
  | .float32 x => x.text .plain
  | .float64 x => x.text .plain
  | .decimal d => d.text
  | .bytes content => Text.Utf8.lenient content
  | .uuid id => id.text
  | .timestamp moment => moment.text
  | .date day => day.text
  | .json document => document.text
  | .array items => (Value.array items).toJson.text
  | .null => Value.null.toJson.text

end Wire

end RelationQuery
