import RelationQuery.Json.Basic

/-!
# Writing JSON

The compact text of a value. In a string only the quotation mark, the backslash and the characters
below the blank are escaped.
-/

namespace RelationQuery.Json

def hexDigit (n : Nat) : Char := Nat.digitChar (n % 16)

def escapeChar (c : Char) : List Char :=
  if c == '"' then ['\\', '"']
  else if c == '\\' then ['\\', '\\']
  else if c == '\x08' then ['\\', 'b']
  else if c == '\x0c' then ['\\', 'f']
  else if c == '\n' then ['\\', 'n']
  else if c == '\r' then ['\\', 'r']
  else if c == '\t' then ['\\', 't']
  else if c.toNat < 0x20 then ['\\', 'u', '0', '0', hexDigit (c.toNat / 16), hexDigit c.toNat]
  else [c]

def stringText (s : String) : List Char := '"' :: s.toList.flatMap escapeChar ++ ['"']

mutual

def text : Json → List Char
  | .null => ['n', 'u', 'l', 'l']
  | .bool b => boolText b
  | .number n => n.text
  | .string s => stringText s
  | .array [] => ['[', ']']
  | .array (item :: rest) => '[' :: text item ++ restText rest
  | .object [] => ['\x7b', '\x7d']
  | .object ((key, value) :: rest) =>
      '\x7b' :: stringText key ++ ':' :: text value ++ membersText rest

def restText : List Json → List Char
  | [] => [']']
  | item :: rest => ',' :: text item ++ restText rest

def membersText : List (String × Json) → List Char
  | [] => ['\x7d']
  | (key, value) :: rest => ',' :: stringText key ++ ':' :: text value ++ membersText rest

end

def compact (json : Json) : String := String.ofList json.text

end RelationQuery.Json
