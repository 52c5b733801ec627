import RelationQuery.Directive
import RelationQuery.Filter
import RelationQuery.Json.Write

/-!
# Requests

The parameters of a request carry directives under reserved names; all others are handed on. A
filter of a request is always an object of keys and values, and its keys are plain identifiers.
-/

namespace RelationQuery

def isRequestKey (key : String) : Bool :=
  !key.toList.isEmpty && key.toList.all fun c => c.isAlphanum || c == '_' || c == '-'

structure Request where
  filter : Option FilterEntries
  search : Option String
  limit : Option Int64
  offset : Option Int64
  order : Option Order
  /-- The parameters that are not directives. -/
  additional : Keyed Json

namespace Request

def reservedNames : List String := ["search", "filter", "limit", "offset", "order_by", "orderBy"]

def entriesOf (members : Keyed Json) : FilterEntries := members.mapValues FilterValue.ofJson

/-- The members of an object that a parameter carries, as text or as a document. -/
def objectOf? : Json → Option (Keyed Json)
  | .string s => Json.readKeyed? s.toList
  | .object members => some (.ofList members)
  | _ => none

/-- The filter of the parameter `search`, if that is an object. -/
def searchFilter? (query : Keyed Json) : Option FilterEntries :=
  ((query.get? "search").bind objectOf?).map entriesOf

def searchText? (query : Keyed Json) : Option String :=
  match query.get? "search" with
  | some (.string s) => if (Json.readKeyed? s.toList).isSome then none else some s
  | _ => none

/-- What a document says of itself where an object is wanted. -/
def describe : Json → String
  | .string s => s
  | other => other.compact

def readFilter (query : Keyed Json) : Except Cause (Option FilterEntries) :=
  match searchFilter? query with
  | some entries => .ok (some entries)
  | none =>
      match query.get? "filter" with
      | none => .ok none
      | some parameter =>
          match objectOf? parameter with
          | some members => .ok (some (entriesOf members))
          | none => .error (.malformedFilter (.notAnObject (describe parameter)))

/-- The integer in front of a text, behind white space and a sign. -/
def leadingInteger? (text : List Char) : Option Int64 :=
  let (negative, rest) := Binary.splitSign (Text.trimLeft text)
  match Text.readInt64 (rest.takeWhile Char.isDigit) with
  | .ok n => some (.ofInt (if negative then -n else n))
  | .error _ => none

def integerOf? : Json → Option Int64
  | .number n => n.toInt64?
  | .string s => leadingInteger? s.toList
  | _ => none

def orderOf? : Json → Option Order
  | .string s => some (.read s)
  | .object members => Order.ofObjectText? (Json.object members).compact
  | _ => none

/-- The order, under the first of its two names that carries one. -/
def readOrder? (query : Keyed Json) : Option Order :=
  ["order_by", "orderBy"].findSome? fun name => (query.get? name).bind orderOf?

def columnKeys (filter : Option FilterEntries) (order : Option Order) : List String :=
  (filter.elim [] Keyed.keys) ++ (order.elim [] fun order => order.columns.keys)

def ofQuery (query : Keyed Json) : Except Cause Request := do
  let filter ← readFilter query
  let order := readOrder? query
  match (columnKeys filter order).find? fun key => !isRequestKey key with
  | some key => .error (.malformedFilter (.requestKey key))
  | none =>
      .ok { filter, order
            search := searchText? query
            limit := (query.get? "limit").bind integerOf?
            offset := (query.get? "offset").bind integerOf?
            additional := query.filter fun name _ => !reservedNames.contains name }

def ofPairs (pairs : List (String × String)) : Except Cause Request :=
  ofQuery (Keyed.ofList (pairs.map fun pair => (pair.1, Json.string pair.2)))

end Request

end RelationQuery
