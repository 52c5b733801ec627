import RelationQuery.Error
import RelationQuery.Json.Write
import RelationQuery.Keyed
import RelationQuery.Value.Document
import RelationQuery.Wire.Cell

/-!
# Rows and responses

A row holds the values of its columns in the order in which they are selected. A row that the server
sends is decoded from the left; the first column that has no form, or whose cell is malformed,
decides the failure. What a successful operation reports is one row, a list of rows, the number of
rows affected, or nothing.
-/

namespace RelationQuery

abbrev Row := Keyed Value

structure Column where
  name : String
  type : ColumnType
  deriving DecidableEq, Repr

/-- A cell as it travels; null has no bytes. -/
abbrev Cell := Option (List UInt8)

def Column.decode (column : Column) (place : Nat) (cell : Cell) : Except Cause Value :=
  match Wire.reader? column.type with
  | none => .error (.unsupportedType column.type.name)
  | some read? =>
      match Wire.readNullable? read? cell with
      | some value => .ok value
      | none => .error (.database (.cell place))

namespace Row

def decodeFrom : Nat → Row → List (Column × Cell) → Except Cause Row
  | _, row, [] => .ok row
  | place, row, (column, cell) :: rest => do
      let value ← column.decode place cell
      decodeFrom (place + 1) (row.insert column.name value) rest

def decode (columns : List Column) (cells : List Cell) : Except Cause Row :=
  decodeFrom 0 .empty (columns.zip cells)

/-- The members of a JSON object, with what closes it. -/
def membersText : List (String × Value) → List Char
  | [] => ['\x7d']
  | (key, value) :: rest =>
      ',' :: Json.stringText key ++ ':' :: value.jsonText ++ membersText rest

/-- The JSON text of a row, its members in the order of the columns. -/
def jsonText (row : Row) : List Char :=
  match row.entries with
  | [] => ['\x7b', '\x7d']
  | (key, value) :: rest =>
      '\x7b' :: Json.stringText key ++ ':' :: value.jsonText ++ membersText rest

end Row

/-! ## Responses -/

inductive Payload where
  | one (row : Row)
  | many (rows : List Row)
  | affected (count : Nat)

structure Response where
  payload : Option Payload

namespace Response

def empty : Response := ⟨none⟩

def affected (count : Nat) : Response := ⟨some (.affected count)⟩

def first (rows : List Row) : Response := ⟨rows.head?.map .one⟩

/-- A single row as such, unless a list is asked for; any other number as a list. -/
def ofRows (rows : List Row) (asList : Bool) : Response :=
  match rows, asList with
  | [row], false => ⟨some (.one row)⟩
  | rows, _ => ⟨some (.many rows)⟩

def row? (response : Response) : Option Row :=
  match response.payload with
  | some (.one row) => some row
  | _ => none

def list? (response : Response) : Option (List Row) :=
  match response.payload with
  | some (.many rows) => some rows
  | _ => none

def affected? (response : Response) : Option Nat :=
  match response.payload with
  | some (.affected count) => some count
  | _ => none

end Response

def Payload.jsonText : Payload → List Char
  | .one row => row.jsonText
  | .many rows => '[' :: List.intercalate [','] (rows.map Row.jsonText) ++ [']']
  | .affected count => Nat.toDigits 10 count

def Response.envelope (response : Response) : String :=
  let success := "\x7b\"success\":true"
  match response.payload with
  | none => success ++ "\x7d"
  | some payload => success ++ ",\"data\":" ++ String.ofList payload.jsonText ++ "\x7d"

end RelationQuery
