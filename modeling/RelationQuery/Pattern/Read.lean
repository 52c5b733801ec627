import RelationQuery.Pattern.Automaton
import RelationQuery.Pattern.Class
import RelationQuery.Text.Digits

/-!
# Reading patterns

A pattern is read from the left, with the groups that are still open on a stack. Look-around and
references to groups are no part of the notation; a text with either is no pattern.
-/

namespace RelationQuery.Pattern

open Text (CharSet)

/-- A part of a pattern, and the depth to which it is nested. Settings of options are parts that
cannot be repeated. -/
structure Part where
  pattern : Pattern
  depth : Nat := 0
  isSetting : Bool := false

def Part.row (parts : List Part) : Part :=
  { pattern := inSequence (parts.map Part.pattern)
    depth := match parts with
      | [part] => part.depth
      | [] => 0
      | parts => (parts.map Part.depth).foldl max 0 + 1 }

def Part.among (branches : List Part) : Part :=
  match branches with
  | [branch] => branch
  | branches =>
      { pattern := inChoice (branches.map Part.pattern)
        depth := (branches.map Part.depth).foldl max 0 + 1 }

/-- A group that is not closed yet. Its branches and the parts of the last of them come last part
first. -/
structure OpenGroup where
  branches : List Part := []
  parts : List Part := []
  /-- The number of the group, if it remembers what it matches. -/
  number : Option Nat := none
  /-- The options in force around the group. -/
  outer : Flags := {}

namespace OpenGroup

def add (group : OpenGroup) (part : Part) : OpenGroup :=
  { group with parts := part :: group.parts }

def lastBranch (group : OpenGroup) : Part := .row group.parts.reverse

def branch (group : OpenGroup) : OpenGroup :=
  { group with branches := group.lastBranch :: group.branches, parts := [] }

def content (group : OpenGroup) : Part := .among (group.lastBranch :: group.branches).reverse

def part (group : OpenGroup) : Part :=
  let content := group.content
  { pattern := match group.number with
      | some number => .group number content.pattern
      | none => content.pattern
    depth := content.depth + 1 }

def repeatLast? (group : OpenGroup) (least : Nat) (most : Option Nat) (eager : Bool) :
    Option OpenGroup :=
  match group.parts with
  | part :: parts =>
      if part.isSetting then none
      else
        let repeated : Part :=
          { pattern := part.pattern.repetition least most eager, depth := part.depth + 1 }
        some { group with parts := repeated :: parts }
  | [] => none

end OpenGroup

/-! ## Repetitions -/

/-- The bounds of a repetition, and whether it prefers fewer turns. -/
structure Bounds where
  least : Nat
  most : Option Nat
  isLazy : Bool

/-- What stands behind a mark that prefers fewer turns, if there is one. -/
def readLazy (text : List Char) : Bool × List Char :=
  match text with
  | '?' :: rest => (true, rest)
  | _ => (false, text)

def cutDigits (verbose : Bool) : Bool → List Char → List Char × List Char
  | _, [] => ([], [])
  | true, c :: rest => cutDigits verbose (c != '\n') rest
  | false, c :: rest =>
      if c.isDigit then
        let (digits, rest) := cutDigits verbose false rest
        (c :: digits, rest)
      else if verbose && c == '#' then cutDigits verbose true rest
      else if verbose && Text.isBlank c then cutDigits verbose false rest
      else ([], c :: rest)

def readCount? (flags : Flags) (text : List Char) : Option (Nat × List Char) :=
  let (digits, rest) := cutDigits flags.verbose false ((flags.skip text).dropWhile Text.isBlank)
  let count := Text.digitsValue digits
  if digits.isEmpty || 2 ^ 32 ≤ count then none
  else some (count, rest.dropWhile Text.isBlank)

def readMost? (flags : Flags) (least : Nat) (text : List Char) :
    Option (Option Nat × List Char) := do
  match text with
  | '\x7d' :: rest => some (some least, rest)
  | ',' :: rest =>
      match flags.skip rest with
      | '\x7d' :: rest => some (none, rest)
      | rest => do
          let (most, rest) ← readCount? flags rest
          match rest with
          | '\x7d' :: rest => if least ≤ most then some (some most, rest) else none
          | _ => none
  | _ => none

def readBounds? (flags : Flags) (text : List Char) : Option (Bounds × List Char) := do
  let (least, rest) ← readCount? flags text
  let (most, rest) ← readMost? flags least rest
  let (isLazy, rest) := readLazy (flags.skip rest)
  some (⟨least, most, isLazy⟩, rest)

/-! ## Groups -/

def setFlag? (flags : Flags) (on : Bool) : Char → Option Flags
  | 'i' => some { flags with ignoreCase := on }
  | 'm' => some { flags with multiLine := on }
  | 's' => some { flags with dotAll := on }
  | 'U' => some { flags with swapGreed := on }
  | 'u' => some { flags with unicode := on }
  | 'R' => some { flags with crlf := on }
  | 'x' => some { flags with verbose := on }
  | _ => none

/-- Reads options up to a colon or a bracket; each stands there once, those behind a hyphen are
switched off. -/
def readFlags? : Flags → Bool → List Char → List Char → Option (Flags × List Char)
  | _, _, _, [] => none
  | flags, on, seen, c :: rest =>
      if c == ':' || c == ')' then
        if seen.head? = some '-' then none else some (flags, c :: rest)
      else if seen.contains c then none
      else if c == '-' then readFlags? flags false (c :: seen) rest
      else do
        let flags ← setFlag? flags on c
        readFlags? flags on (c :: seen) rest

def isNameStart (c : Char) : Bool := c == '_' || Text.isAlphabetic c

def isNameChar (c : Char) : Bool :=
  isNameStart c || c == '.' || c == '[' || c == ']' || Text.isNumeric c

def readName? (text : List Char) : Option (List Char × List Char) :=
  let name := text.takeWhile (· != '>')
  match name, text.dropWhile (· != '>') with
  | c :: others, _ :: rest =>
      if isNameStart c && others.all isNameChar then some (name, rest) else none
  | _, _ => none

/-- What an opening bracket starts: a group that remembers its match and may have a name, one that
does not, or a setting of options. -/
inductive Opening where
  | capture (name : Option (List Char))
  | group (inner : Flags)
  | setting (flags : Flags)

def readNamed? (text : List Char) : Option (Opening × List Char) :=
  (readName? text).map fun (name, rest) => (.capture (some name), rest)

def readOpening? (flags : Flags) (text : List Char) : Option (Opening × List Char) :=
  match flags.skip text with
  | '?' :: '=' :: _ => none
  | '?' :: '!' :: _ => none
  | '?' :: '<' :: '=' :: _ => none
  | '?' :: '<' :: '!' :: _ => none
  | '?' :: 'P' :: '<' :: rest => readNamed? rest
  | '?' :: '<' :: rest => readNamed? rest
  | '?' :: ')' :: _ => none
  | '?' :: rest => do
      let (inner, rest) ← readFlags? flags true [] rest
      match rest with
      | ':' :: rest => some (.group inner, rest)
      | _ :: rest => some (.setting inner, rest)
      | [] => none
  | text => some (.capture none, text)

/-! ## The whole -/

def dot? (flags : Flags) : Option Pattern :=
  if !flags.unicode then none
  else if flags.dotAll then some (ofSet .any)
  else if flags.crlf then some (ofSet (CharSet.ofList ['\n', '\r']).complement)
  else some (ofSet (CharSet.single '\n').complement)

def startOf (flags : Flags) : Look :=
  if !flags.multiLine then .textStart else if flags.crlf then .returnLineStart else .lineStart

def endOf (flags : Flags) : Look :=
  if !flags.multiLine then .textEnd else if flags.crlf then .returnLineEnd else .lineEnd

def Atom.pattern (flags : Flags) : Atom → Pattern
  | .literal c => ofSet (flags.fold (.single c))
  | .set members => ofSet members
  | .look condition => .look condition

/-- Where a reading stands: the options in force, the innermost open group, those around it, the
number of groups that remember their match, and the names given so far. -/
structure Progress where
  flags : Flags := {}
  group : OpenGroup := {}
  around : List OpenGroup := []
  captures : Nat := 0
  names : List (List Char) := []

namespace Progress

def addPart (progress : Progress) (part : Part) : Progress :=
  { progress with group := progress.group.add part }

def add (progress : Progress) (pattern : Pattern) : Progress := progress.addPart { pattern }

def repeatLast? (progress : Progress) (bounds : Bounds) : Option Progress :=
  let eager := bounds.isLazy == progress.flags.swapGreed
  (progress.group.repeatLast? bounds.least bounds.most eager).map fun group =>
    { progress with group }

def openGroup (progress : Progress) (flags : Flags) (number : Option Nat) : Progress :=
  { progress with
    flags
    group := { number, outer := progress.flags }
    around := progress.group :: progress.around }

/-- Starts a group, or sets options for what is left of the group. -/
def start? (progress : Progress) : Opening → Option Progress
  | .setting flags =>
      some { progress.addPart { pattern := .empty, isSetting := true } with flags }
  | .group inner => some (progress.openGroup inner none)
  | .capture name =>
      if name.any progress.names.contains then none
      else
        let number := progress.captures + 1
        some { progress.openGroup progress.flags (some number) with
          captures := number
          names := name.toList ++ progress.names }

def close? (progress : Progress) : Option Progress :=
  match progress.around with
  | [] => none
  | outer :: around =>
      some { progress with
        flags := progress.group.outer
        group := outer.add progress.group.part
        around }

def finish? (progress : Progress) : Option Part :=
  if progress.around.isEmpty then some progress.group.content else none

def mark? (progress : Progress) (least : Nat) (most : Option Nat) (rest : List Char) :
    Option (Progress × List Char) := do
  let (isLazy, rest) := readLazy rest
  some (← progress.repeatLast? ⟨least, most, isLazy⟩, rest)

def step? (progress : Progress) (c : Char) (rest : List Char) : Option (Progress × List Char) :=
  let flags := progress.flags
  match c with
  | '(' => do
      let (opening, rest) ← readOpening? flags rest
      some (← progress.start? opening, rest)
  | ')' => do some (← progress.close?, rest)
  | '|' => some ({ progress with group := progress.group.branch }, rest)
  | '*' => progress.mark? 0 none rest
  | '+' => progress.mark? 1 none rest
  | '?' => progress.mark? 0 (some 1) rest
  | '\x7b' => do
      let (bounds, rest) ← readBounds? flags rest
      some (← progress.repeatLast? bounds, rest)
  | '[' => do
      let (cls, rest) ← readClass? flags rest
      some (progress.addPart { pattern := ofSet cls.chars, depth := cls.depth }, rest)
  | '.' => do some (progress.add (← dot? flags), rest)
  | '^' => some (progress.add (.look (startOf flags)), rest)
  | '$' => some (progress.add (.look (endOf flags)), rest)
  | '\\' => do
      let (atom, rest) ← readEscape? flags rest
      some (progress.add (atom.pattern flags), rest)
  | c => some (progress.add ((Atom.literal c).pattern flags), rest)

/-- Reads part after part. Every part takes a character at least, so `fuel` is enough if it exceeds
the length of the text. -/
def read? : Nat → Progress → List Char → Option Part
  | 0, _, _ => none
  | fuel + 1, progress, text =>
      match progress.flags.skip text with
      | [] => progress.finish?
      | c :: rest => do
          let (progress, rest) ← progress.step? c rest
          read? fuel progress rest

end Progress

def maxDepth : Nat := 250

/-- The pattern that a text is, if it is one that is neither nested too deeply nor too large. -/
def ofText? (text : List Char) : Option Pattern := do
  let part ← Progress.read? (text.length + 1) {} text
  if part.depth ≤ maxDepth && part.pattern.isSmall then some part.pattern else none

def matchesText (pattern text : List Char) : Bool := (ofText? pattern).any (·.occursIn text)

end RelationQuery.Pattern
