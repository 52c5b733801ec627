import RelationQuery.Text.Property

/-!
# Patterns

Regular expressions over characters. A pattern keeps what its automaton is built from: the numbers
of its groups and the preference of its repetitions play no part in whether it matches, but in how
large the automaton becomes. The ends of its matches are computed for a whole set of starts at once,
so a text is never searched twice from the same place.
-/

namespace RelationQuery

namespace Pattern

inductive WordScript where
  | all
  | ascii
  deriving DecidableEq, Repr

def WordScript.isWord : WordScript → Char → Bool
  | .all, c => Text.isWord c
  | .ascii, c => c.isAlphanum || c == '_'

inductive Look where
  | textStart
  | textEnd
  | lineStart
  | lineEnd
  /-- The start of a line, where a carriage return ends a line as well. -/
  | returnLineStart
  | returnLineEnd
  | boundary (script : WordScript)
  | notBoundary (script : WordScript)
  | wordStart (script : WordScript)
  | wordEnd (script : WordScript)
  | wordStartHalf (script : WordScript)
  | wordEndHalf (script : WordScript)
  deriving DecidableEq, Repr

def Look.holds (before behind : Option Char) : Look → Bool
  | .textStart => before.isNone
  | .textEnd => behind.isNone
  | .lineStart => before.all (· == '\n')
  | .lineEnd => behind.all (· == '\n')
  | .returnLineStart => before.all (· == '\n') || (before == some '\r' && behind != some '\n')
  | .returnLineEnd => behind.all (· == '\r') || (behind == some '\n' && before != some '\r')
  | .boundary script => before.any script.isWord != behind.any script.isWord
  | .notBoundary script => before.any script.isWord == behind.any script.isWord
  | .wordStart script => !before.any script.isWord && behind.any script.isWord
  | .wordEnd script => before.any script.isWord && !behind.any script.isWord
  | .wordStartHalf script => !before.any script.isWord
  | .wordEndHalf script => !behind.any script.isWord

end Pattern

inductive Pattern where
  | empty
  /-- Characters one after the other. -/
  | literal (text : List Char)
  | set (chars : Text.CharSet)
  | look (condition : Pattern.Look)
  /-- A group with a number, which remembers what it has matched. -/
  | group (number : Nat) (pattern : Pattern)
  /-- At least `least` times, and at most `most` times if that is given; as often as possible if it
  is eager. -/
  | repeated (pattern : Pattern) (least : Nat) (most : Option Nat) (eager : Bool)
  | sequence (parts : List Pattern)
  | choice (branches : List Pattern)

namespace Pattern

/-! ## Equality -/

mutual

def same : Pattern → Pattern → Bool
  | .empty, .empty => true
  | .literal a, .literal b => a == b
  | .set a, .set b => a == b
  | .look a, .look b => a == b
  | .group m a, .group n b => m == n && same a b
  | .repeated a least most eager, .repeated b least' most' eager' =>
      least == least' && most == most' && eager == eager' && same a b
  | .sequence a, .sequence b => sameAll a b
  | .choice a, .choice b => sameAll a b
  | _, _ => false

def sameAll : List Pattern → List Pattern → Bool
  | [], [] => true
  | a :: as, b :: bs => same a b && sameAll as bs
  | _, _ => false

end

/-! ## Lengths -/

def sum? (a b : Option Nat) : Option Nat := do some ((← a) + (← b))

mutual

/-- The least number of characters that a match has, if any branch can match at all. -/
def minLength : Pattern → Option Nat
  | .empty => some 0
  | .literal text => some text.length
  | .set chars => if chars.isEmpty then none else some 1
  | .look _ => some 0
  | .group _ pattern => minLength pattern
  | .repeated pattern least _ _ => (minLength pattern).map (· * least)
  | .sequence parts => minLengthSum parts
  | .choice branches => minLengthAmong branches

def minLengthSum : List Pattern → Option Nat
  | [] => some 0
  | part :: parts => sum? (minLength part) (minLengthSum parts)

def minLengthAmong : List Pattern → Option Nat
  | [] => none
  | [branch] => minLength branch
  | branch :: branches => do
      let least ← minLength branch
      let others ← minLengthAmong branches
      some (min least others)

end

mutual

def maxLength : Pattern → Option Nat
  | .empty => some 0
  | .literal text => some text.length
  | .set chars => if chars.isEmpty then none else some 1
  | .look _ => some 0
  | .group _ pattern => maxLength pattern
  | .repeated pattern _ most _ => do some ((← maxLength pattern) * (← most))
  | .sequence parts => maxLengthSum parts
  | .choice branches => maxLengthAmong branches

def maxLengthSum : List Pattern → Option Nat
  | [] => some 0
  | part :: parts => sum? (maxLength part) (maxLengthSum parts)

def maxLengthAmong : List Pattern → Option Nat
  | [] => none
  | [branch] => maxLength branch
  | branch :: branches => do
      let most ← maxLength branch
      let others ← maxLengthAmong branches
      some (max most others)

end

/-- Whether a pattern matches nothing but the empty text. -/
def isBlank (pattern : Pattern) : Bool := pattern.maxLength == some 0

def consumes (pattern : Pattern) : Bool := pattern.minLength.any (0 < ·)

/-! ## Anchors -/

mutual

/-- Whether every match starts with a condition, as far as the order of the parts tells. -/
def startsWith (condition : Look) : Pattern → Bool
  | .look other => other == condition
  | .group _ pattern => startsWith condition pattern
  | .repeated pattern least _ _ => 0 < least && startsWith condition pattern
  | .sequence parts => sequenceStartsWith condition parts
  | .choice branches => allStartWith condition branches
  | _ => false

def sequenceStartsWith (condition : Look) : List Pattern → Bool
  | [] => false
  | part :: parts =>
      startsWith condition part || (isBlank part && sequenceStartsWith condition parts)

def allStartWith (condition : Look) : List Pattern → Bool
  | [] => true
  | branch :: branches => startsWith condition branch && allStartWith condition branches

end

mutual

def endsWith (condition : Look) : Pattern → Bool
  | .look other => other == condition
  | .group _ pattern => endsWith condition pattern
  | .repeated pattern least _ _ => 0 < least && endsWith condition pattern
  | .sequence parts => sequenceEndsWith condition parts
  | .choice branches => allEndWith condition branches
  | _ => false

def sequenceEndsWith (condition : Look) : List Pattern → Bool
  | [] => false
  | part :: parts =>
      sequenceEndsWith condition parts || (parts.all isBlank && endsWith condition part)

def allEndWith (condition : Look) : List Pattern → Bool
  | [] => true
  | branch :: branches => endsWith condition branch && allEndWith condition branches

end

/-! ## Where patterns match -/

def iterate (step : List Nat → List Nat) : Nat → List Nat → List Nat
  | 0, places => places
  | count + 1, places =>
      let next := step places
      if next == places then places else iterate step count next

/-- The places that up to `count` steps reach, together with those reached before. -/
def spread (step : List Nat → List Nat) : Nat → List Nat → List Nat → List Nat
  | 0, reached, _ => reached
  | count + 1, reached, front =>
      let fresh := ((step front).filter fun place => !reached.contains place).eraseDups
      if fresh.isEmpty then reached else spread step count (reached ++ fresh) fresh

def behind? (text : Array Char) : List Char → Nat → Option Nat
  | [], place => some place
  | c :: word, place => if text[place]? = some c then behind? text word (place + 1) else none

mutual

def ends (text : Array Char) : Pattern → List Nat → List Nat
  | .empty, starts => starts
  | .literal word, starts => starts.filterMap (behind? text word)
  | .set chars, starts =>
      (starts.filter fun place => text[place]?.any (chars.contains ·)).map (· + 1)
  | .look condition, starts =>
      starts.filter fun place =>
        condition.holds (if place = 0 then none else text[place - 1]?) text[place]?
  | .group _ pattern, starts => ends text pattern starts
  | .repeated pattern least most _, starts =>
      let step := ends text pattern
      let places := iterate step least starts
      let limit := match most with
        | some most => min (most - least) (text.size + 1)
        | none => text.size + 1
      spread step limit places places
  | .sequence parts, starts => sequenceEnds text parts starts
  | .choice branches, starts => (choiceEnds text branches starts).eraseDups

def sequenceEnds (text : Array Char) : List Pattern → List Nat → List Nat
  | [], starts => starts
  | part :: parts, starts => sequenceEnds text parts (ends text part starts)

def choiceEnds (text : Array Char) : List Pattern → List Nat → List Nat
  | [], _ => []
  | branch :: branches, starts => ends text branch starts ++ choiceEnds text branches starts

end

def occursIn (pattern : Pattern) (text : List Char) : Bool :=
  let text := text.toArray
  !(pattern.ends text (List.range (text.size + 1))).isEmpty

end Pattern

end RelationQuery
