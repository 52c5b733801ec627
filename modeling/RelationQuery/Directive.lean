import RelationQuery.Json.Read
import RelationQuery.Keyed
import RelationQuery.Text.Words

/-!
# Directives

How the rows of a query are ordered, grouped and paged.
-/

namespace RelationQuery

inductive Direction where
  | ascending
  | descending
  deriving DecidableEq, Repr, Inhabited

namespace Direction

def word : Direction → String
  | .ascending => "ASC"
  | .descending => "DESC"

/-- Only the upper-case word is descending. -/
def ofWord (word : String) : Direction := if word = "DESC" then .descending else .ascending

theorem ofWord_word (direction : Direction) : ofWord direction.word = direction := by
  cases direction <;> simp [word, ofWord]

end Direction

/-- Columns and their directions, the first of them most significant. -/
structure Order where
  columns : Keyed Direction
  deriving DecidableEq, Repr

namespace Order

def empty : Order := ⟨.empty⟩

def isEmpty (order : Order) : Bool := order.columns.isEmpty

def readEntry? (entry : List Char) : Option (String × Direction) :=
  match Text.words entry with
  | [] => none
  | [column] => some (String.ofList column, .ascending)
  | column :: direction :: _ => some (String.ofList column, .ofWord (String.ofList direction))

/-- Reads `a ASC, b DESC, c`. -/
def ofText (text : String) : Order :=
  ⟨Keyed.ofList ((text.toList.splitOn ',').filterMap readEntry?)⟩

def directionOf : Json → Direction
  | .string word => .ofWord word
  | _ => .ascending

def ofObjectText? (text : String) : Option Order :=
  (Json.readKeyed? text.toList).map fun members => ⟨members.mapValues directionOf⟩

/-- Reads either form, the object first. -/
def read (text : String) : Order := (ofObjectText? text).getD (ofText text)

/-- The order with its keys as columns. -/
def mapped (order : Order) (mapping : Option KeyMapping) : Order :=
  ⟨Keyed.ofList (order.columns.entries.map fun entry => (mapKey mapping entry.1, entry.2))⟩

end Order

def readGroup (text : String) : List String :=
  (((text.toList.splitOn ',').map Text.trim).filter fun column => !column.isEmpty).map String.ofList

structure Page where
  limit : Option Int64 := none
  offset : Option Int64 := none
  deriving DecidableEq, Repr

namespace Page

/-- A number that is not negative, or what stands for its absence. -/
def countOr (absent : Int64) : Option Int64 → Int64
  | some n => if 0 ≤ n then n else absent
  | none => absent

/-- The limit in force; without one it is the greatest. -/
def effectiveLimit (page : Page) : Int64 := countOr Int64.maxValue page.limit

def effectiveOffset (page : Page) : Int64 := countOr 0 page.offset

theorem countOr_of_nonneg {n : Int64} (counts : 0 ≤ n) (absent : Int64) :
    countOr absent (some n) = n :=
  if_pos counts

theorem countOr_of_neg {n : Int64} (negative : n < 0) (absent : Int64) :
    countOr absent (some n) = absent :=
  if_neg (Int64.not_le.mpr negative)

end Page

end RelationQuery
