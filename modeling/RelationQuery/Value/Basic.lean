import RelationQuery.Calendar.Timestamp
import RelationQuery.Decimal.Basic
import RelationQuery.Json.Basic
import RelationQuery.Uuid

/-!
# Values

The values of query parameters and of the cells of a row, one constructor for each family of column
types. Two values are the same when their contents are: decimals by what they stand for, and
floating numbers as numbers, so a value that is not a number is not even the same as itself.
-/

namespace RelationQuery

inductive Value where
  | null
  | bool (b : Bool)
  | int16 (n : Int16)
  | int32 (n : Int32)
  | int64 (n : Int64)
  | float32 (x : Single)
  | float64 (x : Double)
  | decimal (d : Decimal)
  | text (s : String)
  | bytes (content : List UInt8)
  | uuid (id : Uuid)
  | timestamp (moment : Timestamp)
  | date (day : Date)
  | json (document : Json)
  | array (items : List Value)
  deriving Repr, Inhabited

namespace Value

def isNull : Value → Bool
  | .null => true
  | _ => false

mutual

def same : Value → Value → Bool
  | .null, .null => true
  | .bool a, .bool b => a == b
  | .int16 m, .int16 n => m == n
  | .int32 m, .int32 n => m == n
  | .int64 m, .int64 n => m == n
  | .float32 x, .float32 y => x.same y
  | .float64 x, .float64 y => x.same y
  | .decimal c, .decimal d => c.same d
  | .text s, .text t => s == t
  | .bytes a, .bytes b => a == b
  | .uuid a, .uuid b => a == b
  | .timestamp a, .timestamp b => a == b
  | .date a, .date b => a == b
  | .json a, .json b => a.same b
  | .array a, .array b => sameItems a b
  | _, _ => false

def sameItems : List Value → List Value → Bool
  | [], [] => true
  | a :: rest, b :: others => same a b && sameItems rest others
  | _, _ => false

end

end Value

end RelationQuery
