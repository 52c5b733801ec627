import RelationQuery.Column.Type
import RelationQuery.Json.Read
import RelationQuery.Text.Utf8
import RelationQuery.Value.Basic
import RelationQuery.Wire.Bytes
import RelationQuery.Wire.Numeric

/-!
# Cells on the wire

The value of a cell by the type of its column. Each type has one form; bytes of any other form are
refused, and so is a column of a type without a form.
-/

namespace RelationQuery.Wire

def decodeBool? (bytes : List UInt8) : Option Bool :=
  match bytes with
  | [byte] => some (byte ≠ 0)
  | _ => none

def decodeInteger? (count : Nat) (bytes : List UInt8) : Option Int :=
  (exactly? count bytes).map ofSignedBytes

def decodeBinary? (format : Format) (bytes : List UInt8) : Option (Binary format) :=
  (exactly? (format.width / 8) bytes).map fun bytes => ⟨BitVec.ofNat _ (ofBigEndian bytes)⟩

def decodeUuid? (bytes : List UInt8) : Option Uuid :=
  (exactly? 16 bytes).map fun bytes => ⟨BitVec.ofNat 128 (ofBigEndian bytes)⟩

def decodeTimestamp? (bytes : List UInt8) : Option Timestamp := do
  ofEpochMicros? (← decodeInteger? 8 bytes)

def decodeDate? (bytes : List UInt8) : Option Date := do
  ofEpochDays? (← decodeInteger? 4 bytes)

def decodeDocument? (bytes : List UInt8) : Option Json := do
  Json.read? (← Text.Utf8.decode? bytes).toList

/-- A document behind the number of its version. -/
def decodeVersioned? : List UInt8 → Option Json
  | 1 :: bytes => decodeDocument? bytes
  | _ => none

def arrayElements : List ScalarType := [.bool, .int4, .int8, .text, .varchar, .uuid]

def scalarReader? : ScalarType → Option (List UInt8 → Option Value)
  | .bool => some fun bytes => (decodeBool? bytes).map .bool
  | .int2 => some fun bytes => (decodeInteger? 2 bytes).map fun n => .int16 (.ofInt n)
  | .int4 => some fun bytes => (decodeInteger? 4 bytes).map fun n => .int32 (.ofInt n)
  | .int8 => some fun bytes => (decodeInteger? 8 bytes).map fun n => .int64 (.ofInt n)
  | .float4 => some fun bytes => (decodeBinary? .single bytes).map .float32
  | .float8 => some fun bytes => (decodeBinary? .double bytes).map .float64
  | .numeric => some fun bytes => ((Numeric.decode? bytes).bind Numeric.toDecimal?).map .decimal
  | .text => some fun bytes => (Text.Utf8.decode? bytes).map .text
  | .varchar => some fun bytes => (Text.Utf8.decode? bytes).map .text
  | .bpchar => some fun bytes => (Text.Utf8.decode? bytes).map .text
  | .name => some fun bytes => (Text.Utf8.decode? bytes).map .text
  | .bytea => some fun bytes => some (.bytes bytes)
  | .uuid => some fun bytes => (decodeUuid? bytes).map .uuid
  | .timestamptz => some fun bytes => (decodeTimestamp? bytes).map .timestamp
  | .timestamp => some fun bytes => (decodeTimestamp? bytes).map .timestamp
  | .date => some fun bytes => (decodeDate? bytes).map .date
  | .json => some fun bytes => (decodeDocument? bytes).map .json
  | .jsonb => some fun bytes => (decodeVersioned? bytes).map .json
  | .other _ _ => none

/-- The cells of an array, `count` of them and nothing behind; a negative length is null. -/
def cutCells? : Nat → List UInt8 → Option (List (Option (List UInt8)))
  | 0, bytes => if bytes.isEmpty then some [] else none
  | count + 1, bytes => do
      let (length, rest) ← cutSigned? 4 bytes
      if length < 0 then
        let cells ← cutCells? count rest
        some (none :: cells)
      else if length.toNat ≤ rest.length then
        let cells ← cutCells? count (rest.drop length.toNat)
        some (some (rest.take length.toNat) :: cells)
      else none

def decodeArray? (bytes : List UInt8) : Option (List (Option (List UInt8))) := do
  let (dimensions, rest) ← cutSigned? 4 bytes
  let (_, rest) ← cutSigned? 4 rest
  let (_, rest) ← cutWord? 4 rest
  if dimensions = 0 then cutCells? 0 rest
  else if dimensions = 1 then
    let (length, rest) ← cutSigned? 4 rest
    let (_, rest) ← cutSigned? 4 rest
    if length < 0 then none else cutCells? length.toNat rest
  else none

def readNullable? (read? : List UInt8 → Option Value) : Option (List UInt8) → Option Value
  | none => some .null
  | some bytes => read? bytes

def readArray? (read? : List UInt8 → Option Value) (bytes : List UInt8) : Option Value := do
  let cells ← decodeArray? bytes
  (cells.mapM (readNullable? read?)).map .array

/-- Reads a cell of a type, if the type has a form. -/
def reader? : ColumnType → Option (List UInt8 → Option Value)
  | .scalar type => scalarReader? type
  | .array element =>
      if element ∈ arrayElements then (scalarReader? element).map readArray? else none
  | .vector _ => none

end RelationQuery.Wire
