import RelationQuery.Sql.Piece
import RelationQuery.Sql.Statement
import RelationQuery.Text.Words

/-!
# Fragments written by the caller

A fragment names its target by the tokens `$scheme` and `$table`, which give way to the target
wherever they stand, and its values by placeholders `:name`. A placeholder is read only outside
single and double quotes; `::` is a cast.
-/

namespace RelationQuery.Sql.Template

def schemeToken : String := "$scheme"

def tableToken : String := "$table"

/-- The fragment with the tokens of the target replaced: first the scheme, then the table. -/
def aim (target : Option Relation) (template : List Char) : List Char :=
  match target with
  | none => template
  | some relation =>
      Text.replace tableToken.toList relation.table.toList
        (Text.replace schemeToken.toList relation.scheme.toList template)

def isQuote (c : Char) : Bool := c == '\'' || c == '"'

def isNameStart (c : Char) : Bool := c == '_' || c.isAlpha

def isNameChar (c : Char) : Bool := c == '_' || c.isAlphanum

inductive Scan where
  | outside
  /-- Inside a region that the next `mark` closes. -/
  | quoted (mark : Char)
  /-- Behind a colon that is not yet placed. -/
  | colon
  /-- Behind a colon and the start of a name. -/
  | name (start : List Char)
  deriving DecidableEq, Repr

def Scan.after (c : Char) : Scan :=
  if isQuote c then .quoted c else if c == ':' then .colon else .outside

/-- What such a character writes at once: a colon waits for the character behind it. -/
def written (c : Char) : List Piece := if c == ':' then [] else [.char c]

def slot (name : List Char) : Piece := .slot (String.ofList name)

def scan : Scan → List Char → List Piece
  | .outside, [] => []
  | .quoted _, [] => []
  | .colon, [] => [.char ':']
  | .name start, [] => [slot start]
  | .outside, c :: rest => written c ++ scan (.after c) rest
  | .quoted mark, c :: rest => .char c :: scan (if c == mark then .outside else .quoted mark) rest
  | .colon, c :: rest =>
      if c == ':' then .char ':' :: .char ':' :: scan .outside rest
      else if isNameStart c then scan (.name [c]) rest
      else .char ':' :: written c ++ scan (.after c) rest
  | .name start, c :: rest =>
      if isNameChar c then scan (.name (start ++ [c])) rest
      else slot start :: written c ++ scan (.after c) rest

def pieces (target : Option Relation) (template : String) : List Piece :=
  scan .outside (aim target template.toList)

theorem named_append (front back : List Piece) :
    named (front ++ back) = named front ++ named back := by
  induction front with
  | nil => rfl
  | cons piece rest ih => cases piece <;> simp [named, ih]

/-- What a scan has read and not written yet. -/
def Scan.held : Scan → List Char
  | .outside => []
  | .quoted _ => []
  | .colon => [':']
  | .name start => ':' :: start

theorem held_after (c : Char) (rest : List Char) :
    named (written c) ++ ((Scan.after c).held ++ rest) = c :: rest := by
  by_cases colon : c = ':'
  · subst colon
    rfl
  · unfold Scan.after
    split <;> simp [written, colon, named, Scan.held]

/-- Read back with its slots as `:name`, a scan returns the text it was given. -/
theorem named_scan (state : Scan) (text : List Char) :
    named (scan state text) = state.held ++ text := by
  fun_induction scan state text with
  | case1 => rfl
  | case2 => rfl
  | case3 => rfl
  | case4 start => simp [named, slot, Scan.held]
  | case5 c rest ih => rw [named_append, ih]; exact held_after c rest
  | case6 mark c rest ih =>
      rw [named, ih]
      split <;> rfl
  | case7 c rest double ih => simp_all [named, Scan.held]
  | case8 c rest single start ih => simpa [Scan.held] using ih
  | case9 c rest single other ih =>
      rw [List.cons_append, named, named_append, ih]
      exact congrArg (':' :: ·) (held_after c rest)
  | case10 start c rest more ih => simpa [Scan.held] using ih
  | case11 start c rest last ih =>
      rw [List.cons_append, slot, named, named_append, ih, held_after, String.toList_ofList]
      rfl

end RelationQuery.Sql.Template
