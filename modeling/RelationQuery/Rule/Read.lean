import RelationQuery.Json.Basic
import RelationQuery.Rule.Basic
import RelationQuery.Text.Property

/-!
# Reading rules

A rule comes as a JSON object with a member for each of its fields, or as an array of the fields in
order. The members of an object are read in the order of their keys, and the first that does not fit
decides the failure; only then is a missing field one.
-/

namespace RelationQuery

inductive Json.Description where
  | null
  | bool (b : Bool)
  | number (n : Json.Number)
  | string (s : String)
  | sequence
  | map
  deriving DecidableEq, Repr

def quoted (text : List Char) : List Char := '\x60' :: text ++ ['\x60']

namespace Json

def describe : Json → Description
  | .null => .null
  | .bool b => .bool b
  | .number n => .number n
  | .string s => .string s
  | .array _ => .sequence
  | .object _ => .map

def Description.text : Description → List Char
  | .null => "null".toList
  | .bool b => "boolean ".toList ++ quoted (boolText b)
  | .number (.whole n) => "integer ".toList ++ quoted (toString n).toList
  | .number (.float x) => "floating point ".toList ++ quoted (x.text .json)
  | .string s => "string ".toList ++ Text.shown s
  | .sequence => "sequence".toList
  | .map => "map".toList

end Json

inductive RuleFault where
  | invalidType (found : Json.Description) (expected : String)
  | invalidValue (found : Json.Description) (expected : String)
  | invalidLength (length : Nat) (expected : String)
  | unknownKind (word : String)
  | missingField (name : String)
  deriving DecidableEq, Repr

namespace RuleFault

def kindChoices : List Char :=
  List.intercalate [',', ' '] (RuleKind.words.map fun entry => quoted entry.1.toList)

def message (fault : RuleFault) : String :=
  String.ofList <| match fault with
    | .invalidType found expected =>
        "invalid type: ".toList ++ found.text ++ ", expected ".toList ++ expected.toList
    | .invalidValue found expected =>
        "invalid value: ".toList ++ found.text ++ ", expected ".toList ++ expected.toList
    | .invalidLength length expected =>
        "invalid length ".toList ++ Nat.toDigits 10 length ++ ", expected ".toList ++
          expected.toList
    | .unknownKind word =>
        "unknown variant ".toList ++ quoted word.toList ++ ", expected one of ".toList ++
          kindChoices
    | .missingField name => "missing field ".toList ++ quoted name.toList

end RuleFault

namespace Rule

inductive Field where
  | name
  | kind
  | required
  | min
  | max
  | pattern
  | allowedChars
  | decimals
  | uppercase
  | lowercase
  | step
  deriving DecidableEq, Repr

namespace Field

def all : List Field :=
  [.name, .kind, .required, .min, .max, .pattern, .allowedChars, .decimals, .uppercase,
    .lowercase, .step]

def key : Field → String
  | .name => "name"
  | .kind => "type"
  | .required => "required"
  | .min => "min"
  | .max => "max"
  | .pattern => "pattern"
  | .allowedChars => "allowedChars"
  | .decimals => "decimals"
  | .uppercase => "uppercase"
  | .lowercase => "lowercase"
  | .step => "step"

/-- Whether an array may end before the field. -/
def hasDefault : Field → Bool
  | .required => true
  | .uppercase => true
  | .lowercase => true
  | _ => false

end Field

/-- A rule whose name and kind may still be missing. -/
structure Draft where
  name : Option String := none
  kind : Option RuleKind := none
  /-- All other fields, under a name and of a kind that count for nothing. -/
  rest : Rule := { name := "", kind := .string }

def readString (json : Json) : Except RuleFault String :=
  match json with
  | .string s => .ok s
  | other => .error (.invalidType other.describe "a string")

def readBool (json : Json) : Except RuleFault Bool :=
  match json with
  | .bool b => .ok b
  | other => .error (.invalidType other.describe "a boolean")

def readDouble (json : Json) : Except RuleFault Double :=
  match json with
  | .number n => .ok n.toDouble
  | other => .error (.invalidType other.describe "f64")

def readCount (json : Json) : Except RuleFault Nat :=
  match json with
  | .number (.whole (.ofNat n)) => .ok n
  | .number (.whole n) => .error (.invalidValue (.number (.whole n)) "usize")
  | other => .error (.invalidType other.describe "usize")

def kindOfWord (word : String) : Except RuleFault RuleKind :=
  match RuleKind.words.lookup word with
  | some kind => .ok kind
  | none => .error (.unknownKind word)

/-- A kind is a word, or an object with the word for its only key and nothing behind it. -/
def readKind (json : Json) : Except RuleFault RuleKind :=
  match json with
  | .string word => kindOfWord word
  | .object [(word, content)] => do
      let kind ← kindOfWord word
      match content with
      | .null => .ok kind
      | other => .error (.invalidType other.describe "unit")
  | .object _ => .error (.invalidValue .map "map with a single key")
  | other => .error (.invalidType other.describe "string or map")

def readOptional {α : Type} (read : Json → Except RuleFault α) (json : Json) :
    Except RuleFault (Option α) :=
  match json with
  | .null => .ok none
  | other => (read other).map some

def Draft.set (draft : Draft) (field : Field) (json : Json) : Except RuleFault Draft :=
  match field with
  | .name => return { draft with name := some (← readString json) }
  | .kind => return { draft with kind := some (← readKind json) }
  | .required => return { draft with rest := { draft.rest with required := ← readBool json } }
  | .min =>
      return { draft with rest := { draft.rest with min := ← readOptional readDouble json } }
  | .max =>
      return { draft with rest := { draft.rest with max := ← readOptional readDouble json } }
  | .pattern =>
      return { draft with rest := { draft.rest with pattern := ← readOptional readString json } }
  | .allowedChars =>
      return { draft with
        rest := { draft.rest with allowedChars := ← readOptional readString json } }
  | .decimals =>
      return { draft with rest := { draft.rest with decimals := ← readOptional readCount json } }
  | .uppercase => return { draft with rest := { draft.rest with uppercase := ← readBool json } }
  | .lowercase => return { draft with rest := { draft.rest with lowercase := ← readBool json } }
  | .step =>
      return { draft with rest := { draft.rest with step := ← readOptional readDouble json } }

def Draft.finish (draft : Draft) : Except RuleFault Rule :=
  match draft.name, draft.kind with
  | none, _ => .error (.missingField Field.name.key)
  | some _, none => .error (.missingField Field.kind.key)
  | some name, some kind => .ok { draft.rest with name, kind }

/-- Reads members in their order; those that are no fields are passed over. -/
def readMembers : Draft → List (String × Json) → Except RuleFault Draft
  | draft, [] => .ok draft
  | draft, (key, json) :: rest =>
      match Field.all.find? fun field => field.key == key with
      | none => readMembers draft rest
      | some field => do readMembers (← draft.set field json) rest

/-- Reads items, each as the field in its place, from a place on. -/
def readItems : Nat → Draft → List Field → List Json → Except RuleFault Draft
  | _, draft, [], _ => .ok draft
  | place, draft, field :: fields, [] =>
      if field.hasDefault then readItems (place + 1) draft fields []
      else .error (.invalidLength place "struct Rule with 11 elements")
  | place, draft, field :: fields, json :: rest => do
      readItems (place + 1) (← draft.set field json) fields rest

def ofJson (json : Json) : Except RuleFault Rule :=
  match json with
  | .object members => do (← readMembers {} members).finish
  | .array items => do
      let draft ← readItems 0 {} Field.all items
      if Field.all.length < items.length then
        .error (.invalidLength items.length "fewer elements in array")
      else draft.finish
  | other => .error (.invalidType other.describe "struct Rule")

end Rule

end RelationQuery
