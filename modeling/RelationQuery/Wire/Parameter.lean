import RelationQuery.Wire.Bytes
import RelationQuery.Wire.Coercion
import RelationQuery.Wire.Numeric

/-!
# Parameters on the wire

The bytes of a value as a parameter of the type that the server expects of it.
-/

namespace RelationQuery.Wire

def encodeScalar (type : ScalarType) (value : Value) : Except Refusal (List UInt8) :=
  match type with
  | .json => .ok (Text.Utf8.encode (toDocument value).text)
  | .jsonb => .ok (1 :: Text.Utf8.encode (toDocument value).text)
  | .bool => return [if ← toBool type value then 1 else 0]
  | .int2 => return signedBytes 2 (← narrowed 2 (← toInteger type value))
  | .int4 => return signedBytes 4 (← narrowed 4 (← toInteger type value))
  | .int8 => return signedBytes 8 (← toInteger type value)
  | .float4 => return bigEndian 4 ((← toDouble type value).convert .single).bits.toNat
  | .float8 => return bigEndian 8 (← toDouble type value).bits.toNat
  | .numeric => return (Numeric.ofDecimal (← toDecimal type value)).encode
  | .uuid => return bigEndian 16 (← toUuid type value).bits.toNat
  | .timestamp => return signedBytes 8 (epochMicros (← toTimestamp type value))
  | .timestamptz => return signedBytes 8 (epochMicros (← toTimestamp type value))
  | .date => return signedBytes 4 (epochDays (← toDate type value))
  | .bytea =>
      match value with
      | .bytes content => .ok content
      | .text s => .ok (Text.Utf8.encode s.toList)
      | other => .error (.mismatch other type)
  | _ => .ok (Text.Utf8.encode (toText value))

def encodeNullable (type : ScalarType) (value : Value) : Except Refusal (Option (List UInt8)) :=
  if value.isNull then .ok none else (encodeScalar type value).map some

/-- A cell with its length in front; null has the length -1. -/
def sized : Option (List UInt8) → List UInt8
  | none => signedBytes 4 (-1)
  | some content => bigEndian 4 content.length ++ content

def encodeArray (element : ScalarType) (lowerBound : Int) (cells : List (Option (List UInt8))) :
    List UInt8 :=
  bigEndian 4 1 ++ bigEndian 4 (if cells.contains none then 1 else 0) ++
    bigEndian 4 element.oid ++ bigEndian 4 cells.length ++ signedBytes 4 lowerBound ++
    cells.flatMap sized

/-- The bytes of a value as a parameter, or none for null. An array goes to an array type item by
item; to any other type it is a value like all others. -/
def bind (type : ColumnType) (value : Value) : Except Refusal (Option (List UInt8)) :=
  match type, value with
  | _, .null => .ok none
  | .scalar type, value => (encodeScalar type value).map some
  | .array element, .array items =>
      return some (encodeArray element type.lowerBound (← items.mapM (encodeNullable element)))
  | .vector element, .array items =>
      return some (encodeArray element type.lowerBound (← items.mapM (encodeNullable element)))
  | _, value => .ok (some (Text.Utf8.encode (toText value)))

end RelationQuery.Wire
