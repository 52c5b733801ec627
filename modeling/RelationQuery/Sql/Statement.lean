/-!
# SQL expressions and statements

Relations, the expressions that the statements of the library are made of, and the four statements.
Names are written as given; every value travels as a named parameter. Each statement carries its
conditions as a list, whose members a rendered statement joins to `WHERE TRUE` by `AND`.
-/

namespace RelationQuery.Sql

/-! ## Expressions -/

structure Relation where
  scheme : String
  table : String
  deriving DecidableEq, Repr

def Relation.qualified (relation : Relation) : String := relation.scheme ++ "." ++ relation.table

inductive BinaryOp where
  | eq
  | and
  | or
  deriving DecidableEq, Repr

def BinaryOp.sign : BinaryOp → String
  | .eq => "="
  | .and => "AND"
  | .or => "OR"

inductive Expr where
  /-- A placeholder for the value of `name`. -/
  | param (name : String)
  | column (relation : Option Relation) (name : String)
  | int (n : Int64)
  | binary (left : Expr) (op : BinaryOp) (right : Expr)
  /-- `IS NULL`, or `IS NOT NULL` when negated. -/
  | isNull (operand : Expr) (negated : Bool)
  /-- Membership of the operand in an array. -/
  | anyOf (operand array : Expr)
  /-- The operand in parentheses. -/
  | nested (operand : Expr)
  /-- Text written by the caller, with placeholders `:name` and the tokens of the target. -/
  | fragment (template : String)
  deriving DecidableEq, Repr

namespace Expr

def bare (name : String) : Expr := .column none name

def qualified (relation : Relation) (name : String) : Expr := .column (some relation) name

def equals (left right : Expr) : Expr := .binary left .eq right

end Expr

/-! ## Statements -/

inductive JoinKind where
  | join
  | inner
  | left
  | right
  | full
  | outer
  | natural
  | cross
  | leftOuter
  | rightOuter
  | fullOuter
  deriving DecidableEq, Repr

def JoinKind.words : JoinKind → String
  | .join => "JOIN"
  | .inner => "INNER JOIN"
  | .left => "LEFT JOIN"
  | .right => "RIGHT JOIN"
  | .full => "FULL JOIN"
  | .outer => "OUTER JOIN"
  | .natural => "NATURAL JOIN"
  | .cross => "CROSS JOIN"
  | .leftOuter => "LEFT OUTER JOIN"
  | .rightOuter => "RIGHT OUTER JOIN"
  | .fullOuter => "FULL OUTER JOIN"

/-- A join. Both texts are fragments; a blank `on` leaves the `ON` part out. -/
structure Join where
  kind : JoinKind
  source : String
  on : String
  deriving DecidableEq, Repr

structure SelectColumn where
  expr : Expr
  label : Option String := none
  deriving DecidableEq, Repr

structure OrderTerm where
  expr : Expr
  descending : Bool
  deriving DecidableEq, Repr

/-- A `SELECT`; without columns it selects `*`. -/
structure Select where
  columns : List SelectColumn := []
  source : Option Relation := none
  joins : List Join := []
  conditions : List Expr := []
  groupBy : List Expr := []
  orderBy : List OrderTerm := []
  limit : Option Expr := none
  offset : Option Expr := none
  deriving DecidableEq, Repr

/-- An `INSERT` of one row; without columns it inserts the default values. -/
structure Insert where
  relation : Relation
  columns : List (String × Expr) := []
  returning : List String := []
  deriving DecidableEq, Repr

structure Update where
  relation : Relation
  assignments : List (String × Expr) := []
  conditions : List Expr := []
  returning : List String := []
  deriving DecidableEq, Repr

structure Delete where
  relation : Relation
  conditions : List Expr := []
  returning : List String := []
  deriving DecidableEq, Repr

/-- What one rendering step writes: a statement, or an expression on its own. -/
inductive Statement where
  | select (statement : Select)
  | insert (statement : Insert)
  | update (statement : Update)
  | delete (statement : Delete)
  | bare (expr : Expr)
  deriving DecidableEq, Repr

def Statement.relation? : Statement → Option Relation
  | .select statement => statement.source
  | .insert statement => some statement.relation
  | .update statement => some statement.relation
  | .delete statement => some statement.relation
  | .bare _ => none

end RelationQuery.Sql
