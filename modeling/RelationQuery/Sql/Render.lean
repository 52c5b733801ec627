import RelationQuery.Sql.Statement
import RelationQuery.Sql.Template
import RelationQuery.Text.Words

/-!
# Writing statements

Every expression and statement as pieces, from left to right. A rendering shares one numbering and
one target among all the statements written into it; the target is the first relation that one of
them names.
-/

namespace RelationQuery.Sql

def separated (separator : String) (parts : List (List Piece)) : List Piece :=
  List.intercalate (literal separator) parts

namespace Expr

def pieces (target : Option Relation) : Expr → List Piece
  | .param name => [.slot name]
  | .column none name => literal name
  | .column (some relation) name => literal relation.qualified ++ .char '.' :: literal name
  | .int n => literal (toString n.toInt)
  | .binary left op right =>
      left.pieces target ++ .char ' ' :: literal op.sign ++ .char ' ' :: right.pieces target
  | .isNull operand negated =>
      operand.pieces target ++ literal (if negated then " IS NOT NULL" else " IS NULL")
  | .anyOf operand array =>
      operand.pieces target ++ literal " = ANY(" ++ array.pieces target ++ [.char ')']
  | .nested operand => .char '(' :: operand.pieces target ++ [.char ')']
  | .fragment template => Template.pieces target template

end Expr

/-- The clause `WHERE TRUE`, and `AND` before every condition. -/
def whereClause (target : Option Relation) (conditions : List Expr) : List Piece :=
  literal " WHERE TRUE" ++
    conditions.flatMap fun condition => literal " AND " ++ condition.pieces target

def returningClause (columns : List String) : List Piece :=
  if columns.isEmpty then [] else literal " RETURNING " ++ separated ", " (columns.map literal)

/-- A clause of comma-separated parts, left out when there are none. -/
def listClause (words : String) (parts : List (List Piece)) : List Piece :=
  if parts.isEmpty then [] else literal words ++ separated ", " parts

def SelectColumn.pieces (target : Option Relation) (column : SelectColumn) : List Piece :=
  column.expr.pieces target ++
    match column.label with
    | none => []
    | some label => literal " AS " ++ literal label

def Join.pieces (target : Option Relation) (join : Join) : List Piece :=
  .char ' ' :: literal join.kind.words ++ .char ' ' :: Template.pieces target join.source ++
    if Text.isBlankText join.on.toList then []
    else literal " ON " ++ Template.pieces target join.on

def OrderTerm.pieces (target : Option Relation) (term : OrderTerm) : List Piece :=
  term.expr.pieces target ++ literal (if term.descending then " DESC" else " ASC")

def optionalClause (target : Option Relation) (words : String) : Option Expr → List Piece
  | none => []
  | some expr => literal words ++ expr.pieces target

def Select.pieces (target : Option Relation) (statement : Select) : List Piece :=
  literal "SELECT " ++
  (if statement.columns.isEmpty then [.char '*']
    else separated ", " (statement.columns.map (·.pieces target))) ++
  (match statement.source with
    | none => []
    | some relation => literal " FROM " ++ literal relation.qualified) ++
  statement.joins.flatMap (·.pieces target) ++
  whereClause target statement.conditions ++
  listClause " GROUP BY " (statement.groupBy.map (·.pieces target)) ++
  listClause " ORDER BY " (statement.orderBy.map (·.pieces target)) ++
  optionalClause target " LIMIT " statement.limit ++
  optionalClause target " OFFSET " statement.offset

def Insert.pieces (target : Option Relation) (statement : Insert) : List Piece :=
  literal "INSERT INTO " ++ literal statement.relation.qualified ++
  (if statement.columns.isEmpty then literal " DEFAULT VALUES"
    else
      literal " (" ++ separated ", " (statement.columns.map (literal ·.1)) ++
      literal ") VALUES (" ++ separated ", " (statement.columns.map (·.2.pieces target)) ++
      [.char ')']) ++
  returningClause statement.returning

def Update.pieces (target : Option Relation) (statement : Update) : List Piece :=
  literal "UPDATE " ++ literal statement.relation.qualified ++ literal " SET " ++
  separated ", " (statement.assignments.map fun assignment =>
    literal assignment.1 ++ literal " = " ++ assignment.2.pieces target) ++
  whereClause target statement.conditions ++
  returningClause statement.returning

def Delete.pieces (target : Option Relation) (statement : Delete) : List Piece :=
  literal "DELETE FROM " ++ literal statement.relation.qualified ++
  whereClause target statement.conditions ++
  returningClause statement.returning

def Statement.pieces (target : Option Relation) : Statement → List Piece
  | .select statement => statement.pieces target
  | .insert statement => statement.pieces target
  | .update statement => statement.pieces target
  | .delete statement => statement.pieces target
  | .bare expr => expr.pieces target

structure Rendering where
  target : Option Relation := none
  pieces : List Piece := []
  deriving DecidableEq, Repr

namespace Rendering

/-- Writes one more statement. The first relation named becomes the target of all that follows. -/
def write (rendering : Rendering) (statement : Statement) : Rendering :=
  let target := rendering.target <|> statement.relation?
  ⟨target, rendering.pieces ++ statement.pieces target⟩

def ofStatements (statements : List Statement) : Rendering := statements.foldl write {}

def rendered (rendering : Rendering) : Rendered := assemble rendering.pieces

end Rendering

def Statement.render (statement : Statement) : Rendered :=
  (Rendering.ofStatements [statement]).rendered

end RelationQuery.Sql
