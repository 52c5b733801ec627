import RelationQuery.Json.Numeral
import RelationQuery.Keyed

/-!
# Reading JSON

Arrays and objects nest at most 127 deep. Of members with one key the last counts; an object sorts
its members, except that the outermost one can also be read with its keys in order of first
appearance.
-/

namespace RelationQuery.Json

/-- How deep arrays and objects may nest. -/
def depthMax : Nat := 127

def isSpace (c : Char) : Bool := c == ' ' || c == '\n' || c == '\t' || c == '\r'

def skipSpace (text : List Char) : List Char := text.dropWhile isSpace

def hexValue? (c : Char) : Option Nat :=
  if c.isDigit then some (c.toNat - '0'.toNat)
  else if 'a' ≤ c ∧ c ≤ 'f' then some (c.toNat - 'a'.toNat + 10)
  else if 'A' ≤ c ∧ c ≤ 'F' then some (c.toNat - 'A'.toNat + 10)
  else none

def hexQuad? (a b c d : Char) : Option Nat := do
  let a ← hexValue? a
  let b ← hexValue? b
  let c ← hexValue? c
  let d ← hexValue? d
  return ((a * 16 + b) * 16 + c) * 16 + d

def surrogatePair? (high low : Nat) : Option Char :=
  if 0xD800 ≤ high ∧ high < 0xDC00 ∧ 0xDC00 ≤ low ∧ low < 0xE000 then
    some (Char.ofNat (0x10000 + (high - 0xD800) * 0x400 + (low - 0xDC00)))
  else none

def simpleEscape? : Char → Option Char
  | '"' => some '"'
  | '\\' => some '\\'
  | '/' => some '/'
  | 'b' => some '\x08'
  | 'f' => some '\x0c'
  | 'n' => some '\n'
  | 'r' => some '\r'
  | 't' => some '\t'
  | _ => none

/-- Reads a string behind its opening mark, up to and with the closing one. -/
def readString? : List Char → Option (List Char × List Char)
  | [] => none
  | '"' :: rest => some ([], rest)
  | '\\' :: 'u' :: a :: b :: c :: d :: rest =>
      match hexQuad? a b c d with
      | none => none
      | some code =>
          if code < 0xD800 ∨ 0xE000 ≤ code then
            (readString? rest).map fun (chars, tail) => (Char.ofNat code :: chars, tail)
          else
            match rest with
            | '\\' :: 'u' :: e :: f :: g :: h :: others =>
                match (hexQuad? e f g h).bind (surrogatePair? code) with
                | none => none
                | some pair =>
                    (readString? others).map fun (chars, tail) => (pair :: chars, tail)
            | _ => none
  | '\\' :: c :: rest =>
      match simpleEscape? c with
      | none => none
      | some escaped => (readString? rest).map fun (chars, tail) => (escaped :: chars, tail)
  | c :: rest =>
      if c.toNat < 0x20 ∨ c = '\\' then none
      else (readString? rest).map fun (chars, tail) => (c :: chars, tail)

/-- Reads items behind the opening bracket of an array that is not empty. -/
def readItems? (item : List Char → Option (Json × List Char)) :
    Nat → List Char → Option (List Json × List Char)
  | 0, _ => none
  | fuel + 1, text =>
      match item (skipSpace text) with
      | none => none
      | some (value, rest) =>
          match skipSpace rest with
          | ',' :: tail =>
              (readItems? item fuel tail).map fun (items, behind) => (value :: items, behind)
          | ']' :: tail => some ([value], tail)
          | _ => none

/-- Reads members behind the opening brace of an object that is not empty, in the order of the
text. -/
def readMembers? (item : List Char → Option (Json × List Char)) :
    Nat → List Char → Option (List (String × Json) × List Char)
  | 0, _ => none
  | fuel + 1, text =>
      match skipSpace text with
      | '"' :: rest =>
          match readString? rest with
          | none => none
          | some (key, behindKey) =>
              match skipSpace behindKey with
              | ':' :: tail =>
                  match item (skipSpace tail) with
                  | none => none
                  | some (value, behind) =>
                      match skipSpace behind with
                      | ',' :: others =>
                          (readMembers? item fuel others).map fun (members, last) =>
                            ((String.ofList key, value) :: members, last)
                      | '\x7d' :: others => some ([(String.ofList key, value)], others)
                      | _ => none
              | _ => none
      | _ => none

def readObject? (item : List Char → Option (Json × List Char)) (text : List Char) :
    Option (List (String × Json) × List Char) :=
  match skipSpace text with
  | '\x7d' :: rest => some ([], rest)
  | rest => readMembers? item (rest.length + 1) rest

def readArray? (item : List Char → Option (Json × List Char)) (text : List Char) :
    Option (List Json × List Char) :=
  match skipSpace text with
  | ']' :: rest => some ([], rest)
  | rest => readItems? item (rest.length + 1) rest

def readScalar? : List Char → Option (Json × List Char)
  | 'n' :: 'u' :: 'l' :: 'l' :: rest => some (.null, rest)
  | 't' :: 'r' :: 'u' :: 'e' :: rest => some (.bool true, rest)
  | 'f' :: 'a' :: 'l' :: 's' :: 'e' :: rest => some (.bool false, rest)
  | '"' :: rest => (readString? rest).map fun (chars, tail) => (.string (String.ofList chars), tail)
  | text => (readNumber? text).map fun (n, tail) => (.number n, tail)

/-- Reads a value in which arrays and objects nest at most `depth` deep. -/
def readValue? : Nat → List Char → Option (Json × List Char)
  | 0, text =>
      match text with
      | '[' :: _ => none
      | '\x7b' :: _ => none
      | _ => readScalar? text
  | depth + 1, text =>
      match text with
      | '[' :: rest =>
          (readArray? (readValue? depth) rest).map fun (items, tail) => (.array items, tail)
      | '\x7b' :: rest =>
          (readObject? (readValue? depth) rest).map fun (members, tail) => (ofMembers members, tail)
      | _ => readScalar? text

def read? (text : List Char) : Option Json :=
  match readValue? depthMax (skipSpace text) with
  | some (value, rest) => if (skipSpace rest).isEmpty then some value else none
  | none => none

/-- The members of the object that a whole text is, in order of first appearance. -/
def readKeyed? (text : List Char) : Option (Keyed Json) :=
  match skipSpace text with
  | '\x7b' :: rest =>
      match readObject? (readValue? (depthMax - 1)) rest with
      | some (members, tail) =>
          if (skipSpace tail).isEmpty then some (Keyed.ofList members) else none
      | none => none
  | _ => none

end RelationQuery.Json
