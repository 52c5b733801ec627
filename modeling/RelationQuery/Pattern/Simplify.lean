import RelationQuery.Pattern.Basic

/-!
# Simplified patterns

How patterns are put together from simpler ones. A sequence holds no sequences and no neighbouring
literals, a choice no choices; a choice among characters is a set, and what all branches start with
stands in front of a choice.
-/

namespace RelationQuery.Pattern

open Text (CharSet)

/-- The characters of a set; a single one is a literal. -/
def ofSet (chars : CharSet) : Pattern :=
  match chars.only? with
  | some c => .literal [c]
  | none => .set chars

/-! ## Repetitions -/

/-- What matches only the empty text is not repeated more than once. -/
def repetition (pattern : Pattern) (least : Nat) (most : Option Nat) (eager : Bool) : Pattern :=
  let (least, most) :=
    if pattern.isBlank then (min least 1, some ((most.map (min 1 ·)).getD 1)) else (least, most)
  if most = some 0 then .empty
  else if least = 1 ∧ most = some 1 then pattern
  else .repeated pattern least most eager

/-! ## Sequences -/

def parts : Pattern → List Pattern
  | .empty => []
  | .sequence parts => parts
  | pattern => [pattern]

def joinLiterals : List Pattern → List Pattern
  | [] => []
  | .literal text :: rest =>
      match joinLiterals rest with
      | .literal more :: others => .literal (text ++ more) :: others
      | others => .literal text :: others
  | part :: rest => part :: joinLiterals rest

def inSequence (patterns : List Pattern) : Pattern :=
  match joinLiterals (patterns.flatMap parts) with
  | [] => .empty
  | [part] => part
  | parts => .sequence parts

/-! ## Choices -/

def branches : Pattern → List Pattern
  | .choice branches => branches
  | pattern => [pattern]

def char? : Pattern → Option Char
  | .literal [c] => some c
  | _ => none

def set? : Pattern → Option CharSet
  | .set chars => some chars
  | _ => none

/-- A choice whose branches have nothing in common at the front. -/
def choose : List Pattern → Pattern
  | [] => .set .none
  | [branch] => branch
  | branches =>
      match branches.mapM char?, branches.mapM set? with
      | some chars, _ => ofSet (.ofList chars)
      | _, some sets => ofSet (.unionAll sets)
      | _, _ => .choice branches

def commonFront : List Pattern → List Pattern → List Pattern
  | a :: as, b :: bs => if same a b then a :: commonFront as bs else []
  | _, _ => []

def sequence? : Pattern → Option (List Pattern)
  | .sequence parts => some parts
  | _ => none

def inChoice (patterns : List Pattern) : Pattern :=
  let flat := patterns.flatMap branches
  match choose flat with
  | .choice branches =>
      match branches.mapM sequence? with
      | some (first :: others) =>
          let front := others.foldl commonFront first
          if front.isEmpty then .choice branches
          else
            let rests := (first :: others).map fun parts => inSequence (parts.drop front.length)
            inSequence (front ++ [choose (rests.flatMap Pattern.branches)])
      | _ => .choice branches
  | pattern => pattern

end RelationQuery.Pattern
