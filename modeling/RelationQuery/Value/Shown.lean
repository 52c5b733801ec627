import RelationQuery.Json.Basic
import RelationQuery.Text.Property
import RelationQuery.Value.Basic

/-!
# Values as shown in messages

The family of a value, and its content between parentheses.
-/

namespace RelationQuery

def bracketed (left right : Char) (items : List (List Char)) : List Char :=
  left :: List.intercalate [',', ' '] items ++ [right]

def labelled (label : String) (content : List Char) : List Char :=
  label.toList ++ '(' :: content ++ [')']

namespace Json

mutual

def shown : Json → List Char
  | .null => "Null".toList
  | .bool b => labelled "Bool" (boolText b)
  | .number n => labelled "Number" n.text
  | .string s => labelled "String" (Text.shown s)
  | .array items => "Array ".toList ++ bracketed '[' ']' (shownItems items)
  | .object members => "Object ".toList ++ bracketed '\x7b' '\x7d' (shownMembers members)

def shownItems : List Json → List (List Char)
  | [] => []
  | item :: rest => shown item :: shownItems rest

def shownMembers : List (String × Json) → List (List Char)
  | [] => []
  | (key, value) :: rest =>
      (Text.shown key ++ ':' :: ' ' :: shown value) :: shownMembers rest

end

end Json

namespace Value

mutual

def shown : Value → List Char
  | .null => "Null".toList
  | .bool b => labelled "Bool" (Json.boolText b)
  | .int16 n => labelled "I16" (toString n.toInt).toList
  | .int32 n => labelled "I32" (toString n.toInt).toList
  | .int64 n => labelled "I64" (toString n.toInt).toList
  | .float32 x => labelled "F32" (x.text .shown)
  | .float64 x => labelled "F64" (x.text .shown)
  | .decimal d => labelled "Decimal" d.text
  | .text s => labelled "String" (Text.shown s)
  | .bytes content =>
      labelled "Bytes" (bracketed '[' ']' (content.map fun byte => Nat.toDigits 10 byte.toNat))
  | .uuid id => labelled "Uuid" id.text
  | .timestamp moment => labelled "Timestamp" (moment.localText ++ ['Z'])
  | .date day => labelled "Date" day.text
  | .json document => labelled "Json" document.shown
  | .array items => labelled "Array" (bracketed '[' ']' (shownItems items))

def shownItems : List Value → List (List Char)
  | [] => []
  | item :: rest => shown item :: shownItems rest

end

end Value

end RelationQuery
