import RelationQuery.Pattern.Escape

/-!
# Bracketed classes

A class lists characters, ranges and other classes between brackets. The operators `&&`, `--` and
`~~` apply from left to right, and bind less than what is listed side by side.
-/

namespace RelationQuery.Pattern

open Text (CharSet)

inductive SetOperator where
  | intersection
  | difference
  | symmetricDifference
  deriving DecidableEq, Repr

def SetOperator.apply : SetOperator → CharSet → CharSet → CharSet
  | .intersection => .intersection
  | .difference => .difference
  | .symmetricDifference => .symmetricDifference

/-- Characters with the depth to which what stands for them is nested. -/
structure Nested where
  chars : CharSet
  depth : Nat
  deriving DecidableEq, Repr

/-- A class that is not closed yet: what is listed since the last operator, how many members that
are and how deep they go, and the operator with what stands before it. -/
structure OpenClass where
  negated : Bool
  listed : CharSet
  members : Nat
  depth : Nat
  operand : Option (Nested × SetOperator)
  deriving Repr

namespace OpenClass

def start (negated : Bool) : OpenClass := ⟨negated, .none, 0, 0, none⟩

def add (cls : OpenClass) (chars : CharSet) (depth : Nat) : OpenClass :=
  { cls with
    listed := .union cls.listed chars
    members := cls.members + 1
    depth := max cls.depth depth }

/-- What is listed since the last operator. Several members are nested in their union. -/
def union (cls : OpenClass) : Nested :=
  ⟨cls.listed, if cls.members ≤ 1 then cls.depth else cls.depth + 1⟩

def total (cls : OpenClass) (flags : Flags) : Nested :=
  match cls.operand with
  | none => cls.union
  | some (left, operator) =>
      ⟨operator.apply (flags.fold left.chars) (flags.fold cls.listed),
        max left.depth cls.union.depth + 1⟩

def operate (cls : OpenClass) (flags : Flags) (operator : SetOperator) : OpenClass :=
  { start cls.negated with operand := some (cls.total flags, operator) }

def close? (cls : OpenClass) (flags : Flags) : Option Nested := do
  let total := cls.total flags
  some ⟨← flags.negated? cls.negated (flags.fold total.chars), total.depth + 1⟩

def addHyphens (flags : Flags) : Nat → OpenClass → List Char → OpenClass × List Char
  | fuel + 1, cls, '-' :: rest => addHyphens flags fuel (cls.add (.single '-') 0) (flags.skip rest)
  | _, cls, text => (cls, text)

end OpenClass

/-- The start of a class: a caret, hyphens, and a bracket that is the first of its members. -/
def openClass (flags : Flags) (text : List Char) : OpenClass × List Char :=
  let text := flags.skip text
  let (cls, text) := match text with
    | '^' :: rest => (OpenClass.start true, flags.skip rest)
    | _ => (OpenClass.start false, text)
  let (cls, text) := cls.addHyphens flags text.length text
  match text with
  | ']' :: rest =>
      if cls.members = 0 then (cls.add (.single ']') 0, flags.skip rest) else (cls, text)
  | _ => (cls, text)

/-- A named class such as `[:alpha:]`, behind its opening bracket: the class, whether the others are
meant, and what stands behind it. -/
def readAsciiClass? (text : List Char) : Option (AsciiClass × Bool × List Char) :=
  match text with
  | ':' :: rest =>
      let (negated, rest) := match rest with
        | '^' :: behind => (true, behind)
        | _ => (false, rest)
      match rest.dropWhile (· != ':') with
      | ':' :: ']' :: behind =>
          (AsciiClass.ofName? (String.ofList (rest.takeWhile (· != ':')))).map (·, negated, behind)
      | _ => none
  | _ => none

def readMember? (flags : Flags) : List Char → Option (Atom × List Char)
  | [] => none
  | '\\' :: rest => readEscape? flags rest
  | c :: rest => some (.literal c, rest)

/-- A single character of a class. Beyond ASCII there are none unless all scripts are meant. -/
def Atom.literal? (flags : Flags) : Atom → Option Char
  | .literal c => if flags.unicode || c.toNat < 128 then some c else none
  | _ => none

def Atom.set? (flags : Flags) : Atom → Option CharSet
  | .literal c => ((Atom.literal c).literal? flags).map .single
  | .set members => some members
  | .look _ => none

/-- The character behind a hyphen that tells whether the hyphen makes a range. In verbose patterns
it is sought behind blanks, and in a comment that follows them. -/
def peekBehind (flags : Flags) (text : List Char) : Option Char :=
  if flags.verbose then
    match text.dropWhile Text.isBlank with
    | '#' :: comment => (comment.dropWhile Text.isBlank).head?
    | rest => rest.head?
  else text.head?

def readRange? (flags : Flags) (text : List Char) : Option (CharSet × List Char) := do
  let (first, rest) ← readMember? flags text
  match flags.skip rest with
  | [] => none
  | '-' :: behind =>
      if peekBehind flags behind == some ']' || peekBehind flags behind == some '-' then
        some (← first.set? flags, '-' :: behind)
      else do
        let (last, rest) ← readMember? flags (flags.skip behind)
        let low ← first.literal? flags
        let high ← last.literal? flags
        if low ≤ high then some (.range low high, rest) else none
  | rest => some (← first.set? flags, rest)

/-- Reads what is left of a class and of the classes around it. -/
def readMembers? (flags : Flags) :
    Nat → OpenClass → List OpenClass → List Char → Option (Nested × List Char)
  | 0, _, _, _ => none
  | fuel + 1, cls, outer, text =>
      match flags.skip text with
      | [] => none
      | '[' :: rest =>
          match readAsciiClass? rest with
          | some (named, negated, rest) => do
              let chars ← flags.negated? negated (flags.fold named.set)
              readMembers? flags fuel (cls.add chars 0) outer rest
          | none =>
              let (inner, rest) := openClass flags rest
              readMembers? flags fuel inner (cls :: outer) rest
      | ']' :: rest => do
          let closed ← cls.close? flags
          match outer with
          | [] => some (closed, rest)
          | around :: outer =>
              readMembers? flags fuel (around.add closed.chars closed.depth) outer rest
      | '&' :: '&' :: rest => readMembers? flags fuel (cls.operate flags .intersection) outer rest
      | '-' :: '-' :: rest => readMembers? flags fuel (cls.operate flags .difference) outer rest
      | '~' :: '~' :: rest =>
          readMembers? flags fuel (cls.operate flags .symmetricDifference) outer rest
      | text => do
          let (chars, rest) ← readRange? flags text
          readMembers? flags fuel (cls.add chars 0) outer rest

def readClass? (flags : Flags) (text : List Char) : Option (Nested × List Char) :=
  let (cls, rest) := openClass flags text
  readMembers? flags (text.length + 1) cls [] rest

end RelationQuery.Pattern
