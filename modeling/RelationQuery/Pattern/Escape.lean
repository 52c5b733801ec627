import RelationQuery.Pattern.Basic
import RelationQuery.Text.PropertyName
import RelationQuery.Text.Words
import RelationQuery.Uuid

/-!
# Escapes of patterns

What may stand behind a backslash, inside a class or outside: a character, a class, or a condition
on a place.
-/

namespace RelationQuery.Pattern

open Text (CharSet)

/-! ## Named classes of ASCII characters -/

/-- The classes that stand between brackets and colons, such as `[:alpha:]`. -/
inductive AsciiClass where
  | alnum
  | alpha
  | ascii
  | blank
  | cntrl
  | digit
  | graph
  | lower
  | print
  | punct
  | space
  | upper
  | word
  | xdigit
  deriving DecidableEq, Repr

namespace AsciiClass

open Text.CharSet in
def set : AsciiClass → CharSet
  | .alnum => unionAll [range '0' '9', range 'A' 'Z', range 'a' 'z']
  | .alpha => union (range 'A' 'Z') (range 'a' 'z')
  | .ascii => range '\x00' '\x7f'
  | .blank => ofList ['\t', ' ']
  | .cntrl => union (range '\x00' '\x1f') (single '\x7f')
  | .digit => range '0' '9'
  | .graph => range '!' '~'
  | .lower => range 'a' 'z'
  | .print => range ' ' '~'
  | .punct =>
      difference (range '!' '~') (unionAll [range '0' '9', range 'A' 'Z', range 'a' 'z'])
  | .space => union (range '\t' '\r') (single ' ')
  | .upper => range 'A' 'Z'
  | .word => unionAll [range '0' '9', range 'A' 'Z', range 'a' 'z', single '_']
  | .xdigit => unionAll [range '0' '9', range 'A' 'F', range 'a' 'f']

def ofName? (name : String) : Option AsciiClass :=
  [("alnum", alnum), ("alpha", alpha), ("ascii", ascii), ("blank", blank), ("cntrl", cntrl),
    ("digit", digit), ("graph", graph), ("lower", lower), ("print", print), ("punct", punct),
    ("space", space), ("upper", upper), ("word", word), ("xdigit", xdigit)].lookup name

end AsciiClass

/-! ## Escapes -/

structure Flags where
  ignoreCase : Bool := false
  multiLine : Bool := false
  dotAll : Bool := false
  swapGreed : Bool := false
  unicode : Bool := true
  crlf : Bool := false
  verbose : Bool := false
  deriving DecidableEq, Repr

inductive Atom where
  | literal (c : Char)
  | set (members : CharSet)
  | look (condition : Look)
  deriving DecidableEq, Repr

/-! ## Verbose patterns -/

/-- In verbose patterns, blanks and comments are passed over; the end of a comment is the end of its
line. -/
def skipComment : Bool → List Char → List Char
  | _, [] => []
  | true, c :: rest => skipComment (c != '\n') rest
  | false, c :: rest =>
      if c == '#' then skipComment true rest
      else if Text.isBlank c then skipComment false rest
      else c :: rest

def Flags.skip (flags : Flags) (text : List Char) : List Char :=
  if flags.verbose then skipComment false text else text

/-- The significant characters in front of one that ends them, and what stands behind that. -/
def cutAt? (verbose : Bool) (last : Char) : Bool → List Char → Option (List Char × List Char)
  | _, [] => none
  | true, c :: rest => cutAt? verbose last (c != '\n') rest
  | false, c :: rest =>
      if c == last then some ([], rest)
      else if verbose && c == '#' then cutAt? verbose last true rest
      else if verbose && Text.isBlank c then cutAt? verbose last false rest
      else (cutAt? verbose last false rest).map fun (word, behind) => (c :: word, behind)

/-- What stands in braces, behind the opening one. -/
def Flags.braced? (flags : Flags) (text : List Char) : Option (List Char × List Char) :=
  cutAt? flags.verbose '\x7d' false text

def cutCount? (verbose : Bool) : Bool → Nat → List Char → Option (List Char × List Char)
  | _, 0, text => some ([], text)
  | _, _, [] => none
  | true, count, c :: rest => cutCount? verbose (c != '\n') count rest
  | false, count + 1, c :: rest =>
      if verbose && c == '#' then cutCount? verbose true (count + 1) rest
      else if verbose && Text.isBlank c then cutCount? verbose false (count + 1) rest
      else (cutCount? verbose false count rest).map fun (word, behind) => (c :: word, behind)

/-! ## Options -/

def Flags.wordScript (flags : Flags) : WordScript := if flags.unicode then .all else .ascii

def Flags.fold (flags : Flags) (chars : CharSet) : CharSet :=
  if !flags.ignoreCase then chars
  else chars.foldedBy (if flags.unicode then Text.foldPairs else Text.asciiFoldPairs)

/-- The complement of a set. Without the characters of all scripts it is none, for it would hold
bytes that are no characters. -/
def Flags.complement? (flags : Flags) (chars : CharSet) : Option CharSet :=
  if flags.unicode then some chars.complement else none

def Flags.negated? (flags : Flags) (negated : Bool) (chars : CharSet) : Option CharSet :=
  if negated then flags.complement? chars else some chars

/-! ## Code points -/

def charOf? (n : Nat) : Option Char := if n.isValidChar then some (Char.ofNat n) else none

def charOfHex? (digits : List Char) : Option Char :=
  if digits.isEmpty then none else (Uuid.wordOf? digits).bind charOf?

/-- A character by its code point, in braces or with a fixed number of digits. -/
def readCodePoint? (flags : Flags) (digits : Nat) (text : List Char) :
    Option (Char × List Char) := do
  match flags.skip text with
  | '\x7b' :: rest =>
      let (word, rest) ← flags.braced? rest
      some (← charOfHex? word, rest)
  | text =>
      let (word, rest) ← cutCount? flags.verbose false digits text
      some (← charOfHex? word, rest)

/-- A character by two digits or by its code point in braces. Two digits stand for a byte where the
characters of all scripts are not meant, and a byte beyond ASCII is no character. -/
def readByte? (flags : Flags) (text : List Char) : Option (Char × List Char) := do
  let (c, rest) ← readCodePoint? flags 2 text
  let isBraced := (flags.skip text).head? == some '\x7b'
  if flags.unicode || isBraced || c.toNat < 128 then some (c, rest) else none

/-! ## Properties by name -/

/-- The place of the first `!=` in a name. -/
def splitAtDiffers : List Char → Option (List Char × List Char)
  | '!' :: '=' :: value => some ([], value)
  | c :: rest => (splitAtDiffers rest).map fun (name, value) => (c :: name, value)
  | [] => none

def splitAtMark (mark : Char) (name : List Char) : Option (List Char × List Char) :=
  match name.dropWhile (· != mark) with
  | _ :: value => some (name.takeWhile (· != mark), value)
  | [] => none

/-- The set of a name, or of a property and a value, and whether the complement is meant. -/
def propertySet? (name : List Char) : Option (CharSet × Bool) :=
  match splitAtDiffers name with
  | some (property, value) => (Text.setOfValue? property value).map (·, true)
  | none =>
      match splitAtMark ':' name <|> splitAtMark '=' name with
      | some (property, value) => (Text.setOfValue? property value).map (·, false)
      | none => (Text.setOfName? name).map (·, false)

/-- The name of a property: one letter, or a word in braces. -/
def readPropertyName? (flags : Flags) (text : List Char) : Option (List Char × List Char) :=
  match flags.skip text with
  | '\x7b' :: rest => flags.braced? rest
  | '\\' :: _ => none
  | c :: rest => some ([c], rest)
  | [] => none

def readProperty? (flags : Flags) (negated : Bool) (text : List Char) :
    Option (Atom × List Char) := do
  let (name, rest) ← readPropertyName? flags text
  let (chars, differs) ← propertySet? name
  if flags.unicode then
    some (.set (← flags.negated? (negated != differs) (flags.fold chars)), rest)
  else none

/-! ## Escapes -/

/-- A class that is larger for all scripts than for ASCII. -/
def scriptedClass (flags : Flags) (full : CharSet) (narrow : AsciiClass) (negated : Bool) :
    Option Atom :=
  (flags.negated? negated (if flags.unicode then full else narrow.set)).map .set

def namedLook? (script : WordScript) (name : List Char) : Option Look :=
  [("start", Look.wordStart script), ("end", .wordEnd script),
    ("start-half", .wordStartHalf script), ("end-half", .wordEndHalf script)].lookup
      (String.ofList name)

def isNameOfLook (c : Char) : Bool := c.isAlpha || c == '-'

def readBoundary? (flags : Flags) (text : List Char) : Option (Atom × List Char) :=
  match text with
  | '\x7b' :: rest =>
      match flags.skip rest with
      | c :: _ =>
          if isNameOfLook c then do
            let (name, rest) ← flags.braced? rest
            some (.look (← namedLook? flags.wordScript name), rest)
          else some (.look (.boundary flags.wordScript), text)
      | [] => none
  | _ => some (.look (.boundary flags.wordScript), text)

def isEscapable (c : Char) : Bool := c.toNat < 128 && !c.isAlphanum && c != '<' && c != '>'

def readEscape? (flags : Flags) (text : List Char) : Option (Atom × List Char) :=
  match text with
  | [] => none
  | c :: rest =>
      match c with
      | 'd' => (scriptedClass flags Text.decimalDigits .digit false).map (·, rest)
      | 'D' => (scriptedClass flags Text.decimalDigits .digit true).map (·, rest)
      | 's' => (scriptedClass flags Text.whiteSpace .space false).map (·, rest)
      | 'S' => (scriptedClass flags Text.whiteSpace .space true).map (·, rest)
      | 'w' => (scriptedClass flags Text.wordCharacters .word false).map (·, rest)
      | 'W' => (scriptedClass flags Text.wordCharacters .word true).map (·, rest)
      | 'p' => readProperty? flags false rest
      | 'P' => readProperty? flags true rest
      | 'b' => readBoundary? flags rest
      | 'B' => some (.look (.notBoundary flags.wordScript), rest)
      | '<' => some (.look (.wordStart flags.wordScript), rest)
      | '>' => some (.look (.wordEnd flags.wordScript), rest)
      | 'A' => some (.look .textStart, rest)
      | 'z' => some (.look .textEnd, rest)
      | 'a' => some (.literal '\x07', rest)
      | 'f' => some (.literal '\x0c', rest)
      | 't' => some (.literal '\t', rest)
      | 'n' => some (.literal '\n', rest)
      | 'r' => some (.literal '\r', rest)
      | 'v' => some (.literal '\x0b', rest)
      | 'x' => (readByte? flags rest).map fun (c, rest) => (.literal c, rest)
      | 'u' => (readCodePoint? flags 4 rest).map fun (c, rest) => (.literal c, rest)
      | 'U' => (readCodePoint? flags 8 rest).map fun (c, rest) => (.literal c, rest)
      | _ => if isEscapable c then some (.literal c, rest) else none

end RelationQuery.Pattern
