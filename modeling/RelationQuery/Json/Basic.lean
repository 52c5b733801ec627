import RelationQuery.Binary.Text

/-!
# JSON values

The values of JSON. Numbers keep apart whole numbers and floating ones; the members of an object
stand in the order of their keys, code point by code point, each key once.
-/

namespace RelationQuery

/-- A number: whole in the range from `-2^63` to `2^64 - 1`, or finite floating. -/
inductive Json.Number where
  | whole (n : Int)
  | float (x : Double)
  deriving DecidableEq, Repr

inductive Json where
  | null
  | bool (b : Bool)
  | number (n : Json.Number)
  | string (s : String)
  | array (items : List Json)
  | object (members : List (String × Json))
  deriving Repr, Inhabited

namespace Json

namespace Number

def text : Number → List Char
  | .whole n => (toString n).toList
  | .float x => x.text .json

def toDouble : Number → Double
  | .whole n => Binary.ofInt .double n
  | .float x => x

/-- The number as a signed word of 64 bits, if it was written whole and fits. -/
def toInt64? : Number → Option Int64
  | .whole n => if n < 2 ^ 63 then some (Int64.ofInt n) else none
  | .float _ => none

/-- Equality of numbers of one kind. -/
def same : Number → Number → Bool
  | .whole m, .whole n => m == n
  | .float x, .float y => x.same y
  | _, _ => false

end Number

mutual

/-- Equality, with the equality of floating numbers at the leaves. -/
def same : Json → Json → Bool
  | .null, .null => true
  | .bool a, .bool b => a == b
  | .number a, .number b => a.same b
  | .string a, .string b => a == b
  | .array a, .array b => sameItems a b
  | .object a, .object b => sameMembers a b
  | _, _ => false

def sameItems : List Json → List Json → Bool
  | [], [] => true
  | a :: rest, b :: others => same a b && sameItems rest others
  | _, _ => false

def sameMembers : List (String × Json) → List (String × Json) → Bool
  | [], [] => true
  | (key, a) :: rest, (other, b) :: others => key == other && same a b && sameMembers rest others
  | _, _ => false

end

/-- Puts a member in the place of its key; a member of the same key gives way. -/
def placeMember (key : String) (value : Json) : List (String × Json) → List (String × Json)
  | [] => [(key, value)]
  | member :: rest =>
      if key < member.1 then (key, value) :: member :: rest
      else if key = member.1 then (key, value) :: rest
      else member :: placeMember key value rest

/-- The object with the given members, the last of each key. -/
def ofMembers (members : List (String × Json)) : Json :=
  .object (members.foldl (fun sorted member => placeMember member.1 member.2 sorted) [])

def boolText (b : Bool) : List Char := if b then ['t', 'r', 'u', 'e'] else ['f', 'a', 'l', 's', 'e']

end Json

end RelationQuery
