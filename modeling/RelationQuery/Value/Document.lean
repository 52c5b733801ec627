import RelationQuery.Json.Write
import RelationQuery.Value.Basic

/-!
# Values and JSON

A JSON document read as a value keeps whole numbers exact and objects as documents. A value written
as JSON has two forms: a document, in which every number is of double precision, and a text, in
which a number of single precision has its own digits. Numbers that are infinite or no numbers
become `null`.
-/

namespace RelationQuery.Value

mutual

def ofJson : Json → Value
  | .null => .null
  | .bool b => .bool b
  | .number n =>
      match n.toInt64? with
      | some whole => .int64 whole
      | none => .float64 n.toDouble
  | .string s => .text s
  | .array items => .array (ofJsonItems items)
  | .object members => .json (.object members)

def ofJsonItems : List Json → List Value
  | [] => []
  | item :: rest => ofJson item :: ofJsonItems rest

end

def floatDocument (x : Double) : Json := if x.isFinite then .number (.float x) else .null

/-- Bytes as a document: the list of their numbers. -/
def bytesDocument (content : List UInt8) : Json :=
  .array (content.map fun byte => .number (.whole byte.toNat))

def textDocument (text : List Char) : Json := .string (String.ofList text)

mutual

def toJson : Value → Json
  | .null => .null
  | .bool b => .bool b
  | .int16 n => .number (.whole n.toInt)
  | .int32 n => .number (.whole n.toInt)
  | .int64 n => .number (.whole n.toInt)
  | .float32 x => floatDocument (x.convert .double)
  | .float64 x => floatDocument x
  | .decimal d => textDocument d.text
  | .text s => .string s
  | .bytes content => bytesDocument content
  | .uuid id => textDocument id.text
  | .timestamp moment => textDocument moment.text
  | .date day => textDocument day.text
  | .json document => document
  | .array items => .array (toJsonItems items)

def toJsonItems : List Value → List Json
  | [] => []
  | item :: rest => toJson item :: toJsonItems rest

end

mutual

def jsonText : Value → List Char
  | .float32 x => if x.isFinite then x.text .jsonSingle else Json.null.text
  | .array [] => ['[', ']']
  | .array (item :: rest) => '[' :: jsonText item ++ jsonRest rest
  | other => (toJson other).text

def jsonRest : List Value → List Char
  | [] => [']']
  | item :: rest => ',' :: jsonText item ++ jsonRest rest

end

theorem toJsonItems_eq_map (items : List Value) : toJsonItems items = items.map toJson := by
  induction items with
  | nil => rfl
  | cons item rest ih => simp [toJsonItems, ih]

end RelationQuery.Value
