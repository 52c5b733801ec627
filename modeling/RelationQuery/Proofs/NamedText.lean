import RelationQuery.Proofs.Numbering

/-!
# Statements with their names written out

The text of a statement before any numbering: a value stands as `:name`, and a fragment as it is
once the tokens of its target are replaced. Reading the pieces of a statement back by name gives
this text.
-/

namespace RelationQuery.Sql

open Template (aim named_append named_scan)

@[simp] theorem named_literal (text : String) : named (literal text) = text.toList := by
  unfold literal
  induction text.toList with
  | nil => rfl
  | cons c rest ih => exact congrArg (c :: ·) ih

theorem named_flatMap {α : Type} (parts : List α) (write : α → List Piece) :
    named (parts.flatMap write) = parts.flatMap fun part => named (write part) := by
  induction parts with
  | nil => rfl
  | cons part rest ih => rw [List.flatMap_cons, List.flatMap_cons, named_append, ih]

theorem named_separated (separator : String) (parts : List (List Piece)) :
    named (separated separator parts) = separator.toList.intercalate (parts.map named) := by
  cases parts with
  | nil => rfl
  | cons part rest =>
      rw [separated_cons, named_append, named_flatMap, List.map_cons]
      induction rest generalizing part with
      | nil => simp
      | cons other rest ih =>
          rw [List.flatMap_cons, List.map_cons, List.intercalate_cons_cons, ← ih other,
            named_append, named_literal]
          simp

/-! ## Expressions -/

namespace Expr

def spelled (target : Option Relation) : Expr → List Char
  | .param name => ':' :: name.toList
  | .column none name => name.toList
  | .column (some relation) name => relation.qualified.toList ++ '.' :: name.toList
  | .int n => (toString n.toInt).toList
  | .binary left op right =>
      left.spelled target ++ ' ' :: op.sign.toList ++ ' ' :: right.spelled target
  | .isNull operand negated =>
      operand.spelled target ++ (if negated then " IS NOT NULL" else " IS NULL").toList
  | .anyOf operand array =>
      operand.spelled target ++ " = ANY(".toList ++ array.spelled target ++ [')']
  | .nested operand => '(' :: operand.spelled target ++ [')']
  | .fragment template => aim target template.toList

theorem named_pieces (target : Option Relation) (expr : Expr) :
    named (expr.pieces target) = expr.spelled target := by
  induction expr with
  | param name => simp [pieces, spelled, named]
  | column relation name =>
      cases relation with
      | none => simp [pieces, spelled]
      | some relation => simp [pieces, spelled, named_append, named]
  | int n => simp [pieces, spelled]
  | binary left op right left_ih right_ih =>
      simp [pieces, spelled, named_append, named, left_ih, right_ih]
  | isNull operand negated ih => simp [pieces, spelled, named_append, ih]
  | anyOf operand array operand_ih array_ih =>
      simp [pieces, spelled, named_append, named, operand_ih, array_ih]
  | nested operand ih => simp [pieces, spelled, named_append, named, ih]
  | fragment template => exact named_scan .outside _

end Expr

/-! ## Clauses -/

def spelledWhere (target : Option Relation) (conditions : List Expr) : List Char :=
  " WHERE TRUE".toList ++
    conditions.flatMap fun condition => " AND ".toList ++ condition.spelled target

def commaSeparated (parts : List (List Char)) : List Char := ", ".toList.intercalate parts

def spelledReturning (columns : List String) : List Char :=
  if columns.isEmpty then []
  else " RETURNING ".toList ++ commaSeparated (columns.map String.toList)

def spelledList (words : String) (parts : List (List Char)) : List Char :=
  if parts.isEmpty then [] else words.toList ++ commaSeparated parts

def spelledOptional (target : Option Relation) (words : String) : Option Expr → List Char
  | none => []
  | some expr => words.toList ++ expr.spelled target

def SelectColumn.spelled (target : Option Relation) (column : SelectColumn) : List Char :=
  column.expr.spelled target ++
    match column.label with
    | none => []
    | some label => " AS ".toList ++ label.toList

def Join.spelled (target : Option Relation) (join : Join) : List Char :=
  ' ' :: join.kind.words.toList ++ ' ' :: aim target join.source.toList ++
    if Text.isBlankText join.on.toList then []
    else " ON ".toList ++ aim target join.on.toList

def OrderTerm.spelled (target : Option Relation) (term : OrderTerm) : List Char :=
  term.expr.spelled target ++ (if term.descending then " DESC" else " ASC").toList

section Clauses

variable (target : Option Relation)

theorem named_whereClause (conditions : List Expr) :
    named (whereClause target conditions) = spelledWhere target conditions := by
  unfold whereClause spelledWhere
  rw [named_append, named_literal, named_flatMap]
  congr 2
  funext condition
  rw [named_append, named_literal, Expr.named_pieces]

theorem named_commaSeparated {α : Type} (parts : List α) {write : α → List Piece}
    {spell : α → List Char} (each : ∀ part, named (write part) = spell part) :
    named (separated ", " (parts.map write)) = commaSeparated (parts.map spell) := by
  rw [named_separated, List.map_map]
  exact congrArg (fun spelling => commaSeparated (parts.map spelling)) (funext each)

theorem named_returningClause (columns : List String) :
    named (returningClause columns) = spelledReturning columns := by
  unfold returningClause spelledReturning
  split
  · rfl
  · rw [named_append, named_literal, named_commaSeparated columns named_literal]

theorem named_listClause {α : Type} (words : String) (parts : List α) {write : α → List Piece}
    {spell : α → List Char} (each : ∀ part, named (write part) = spell part) :
    named (listClause words (parts.map write)) = spelledList words (parts.map spell) := by
  cases parts with
  | nil => rfl
  | cons part rest =>
      change named (literal words ++ _) = words.toList ++ _
      rw [named_append, named_literal, named_commaSeparated (part :: rest) each]

theorem named_optionalClause (words : String) (expr : Option Expr) :
    named (optionalClause target words expr) = spelledOptional target words expr := by
  cases expr with
  | none => rfl
  | some expr => simp [optionalClause, spelledOptional, named_append, Expr.named_pieces]

theorem SelectColumn.named_pieces (column : SelectColumn) :
    named (column.pieces target) = column.spelled target := by
  unfold SelectColumn.pieces SelectColumn.spelled
  rw [named_append, Expr.named_pieces]
  cases column.label with
  | none => rfl
  | some label => rw [named_append, named_literal, named_literal]

theorem Join.named_pieces (join : Join) : named (join.pieces target) = join.spelled target := by
  have fragment (text : String) : named (Template.pieces target text) = aim target text.toList :=
    named_scan .outside _
  unfold Join.pieces Join.spelled
  split
  · simp [named_append, named, fragment]
  · simp [named_append, named, fragment]

theorem OrderTerm.named_pieces (term : OrderTerm) :
    named (term.pieces target) = term.spelled target := by
  simp [OrderTerm.pieces, OrderTerm.spelled, named_append, Expr.named_pieces]

end Clauses

/-! ## Statements -/

def Select.spelled (target : Option Relation) (statement : Select) : List Char :=
  "SELECT ".toList ++
  (if statement.columns.isEmpty then ['*']
    else commaSeparated (statement.columns.map (·.spelled target))) ++
  (match statement.source with
    | none => []
    | some relation => " FROM ".toList ++ relation.qualified.toList) ++
  statement.joins.flatMap (·.spelled target) ++
  spelledWhere target statement.conditions ++
  spelledList " GROUP BY " (statement.groupBy.map (·.spelled target)) ++
  spelledList " ORDER BY " (statement.orderBy.map (·.spelled target)) ++
  spelledOptional target " LIMIT " statement.limit ++
  spelledOptional target " OFFSET " statement.offset

def Insert.spelled (target : Option Relation) (statement : Insert) : List Char :=
  "INSERT INTO ".toList ++ statement.relation.qualified.toList ++
  (if statement.columns.isEmpty then " DEFAULT VALUES".toList
    else
      " (".toList ++ commaSeparated (statement.columns.map (·.1.toList)) ++
      ") VALUES (".toList ++ commaSeparated (statement.columns.map (·.2.spelled target)) ++
      [')']) ++
  spelledReturning statement.returning

def Update.spelled (target : Option Relation) (statement : Update) : List Char :=
  "UPDATE ".toList ++ statement.relation.qualified.toList ++ " SET ".toList ++
  commaSeparated (statement.assignments.map fun assignment =>
    assignment.1.toList ++ " = ".toList ++ assignment.2.spelled target) ++
  spelledWhere target statement.conditions ++
  spelledReturning statement.returning

def Delete.spelled (target : Option Relation) (statement : Delete) : List Char :=
  "DELETE FROM ".toList ++ statement.relation.qualified.toList ++
  spelledWhere target statement.conditions ++
  spelledReturning statement.returning

def Statement.spelled (target : Option Relation) : Statement → List Char
  | .select statement => statement.spelled target
  | .insert statement => statement.spelled target
  | .update statement => statement.spelled target
  | .delete statement => statement.spelled target
  | .bare expr => expr.spelled target

section Statements

variable (target : Option Relation)

theorem Select.named_pieces (statement : Select) :
    named (statement.pieces target) = statement.spelled target := by
  have columns : named (if statement.columns.isEmpty then [.char '*']
      else separated ", " (statement.columns.map (·.pieces target))) =
      if statement.columns.isEmpty then ['*']
      else commaSeparated (statement.columns.map (·.spelled target)) := by
    split
    · rfl
    · exact named_commaSeparated statement.columns (SelectColumn.named_pieces target)
  have groups := named_listClause " GROUP BY " statement.groupBy (Expr.named_pieces target)
  have order := named_listClause " ORDER BY " statement.orderBy (OrderTerm.named_pieces target)
  unfold Select.pieces Select.spelled
  cases statement.source with
  | none =>
      simp only [named_append, named_literal, named_flatMap, Join.named_pieces, named_whereClause,
        named_optionalClause, columns, groups, order, named]
  | some relation =>
      simp only [named_append, named_literal, named_flatMap, Join.named_pieces, named_whereClause,
        named_optionalClause, columns, groups, order]

theorem Insert.named_pieces (statement : Insert) :
    named (statement.pieces target) = statement.spelled target := by
  have names := named_commaSeparated statement.columns fun column => named_literal column.1
  have values := named_commaSeparated statement.columns fun column =>
    column.2.named_pieces target
  unfold Insert.pieces Insert.spelled
  rw [named_append, named_append, named_append, named_literal, named_literal,
    named_returningClause]
  cases statement.columns.isEmpty with
  | true => rw [if_pos rfl, if_pos rfl, named_literal]
  | false =>
      rw [if_neg Bool.false_ne_true, if_neg Bool.false_ne_true]
      simp only [named_append, named_literal, names, values, named]

theorem Update.named_pieces (statement : Update) :
    named (statement.pieces target) = statement.spelled target := by
  have assigned (assignment : String × Expr) :
      named (literal assignment.1 ++ literal " = " ++ assignment.2.pieces target) =
        assignment.1.toList ++ " = ".toList ++ assignment.2.spelled target := by
    simp only [named_append, named_literal, Expr.named_pieces]
  have assignments := named_commaSeparated statement.assignments assigned
  unfold Update.pieces Update.spelled
  rw [named_append, named_append, named_append, named_append, named_append, named_literal,
    named_literal, named_literal, named_whereClause, named_returningClause, assignments]

theorem Delete.named_pieces (statement : Delete) :
    named (statement.pieces target) = statement.spelled target := by
  unfold Delete.pieces Delete.spelled
  rw [named_append, named_append, named_append, named_literal, named_literal, named_whereClause,
    named_returningClause]

/-- Read back by name, the pieces of a statement are its text with the names written out. -/
theorem Statement.named_pieces (statement : Statement) :
    named (statement.pieces target) = statement.spelled target := by
  cases statement with
  | select statement => exact statement.named_pieces target
  | insert statement => exact statement.named_pieces target
  | update statement => exact statement.named_pieces target
  | delete statement => exact statement.named_pieces target
  | bare expr => exact expr.named_pieces target

end Statements

/-! ## Runs of statements -/

/-- The text of statements written one behind the other, under the target known before them. -/
def spelledFrom : Option Relation → List Statement → List Char
  | _, [] => []
  | target, statement :: rest =>
      let target := target <|> statement.relation?
      statement.spelled target ++ spelledFrom target rest

theorem named_foldl_write (rendering : Rendering) (statements : List Statement) :
    named (statements.foldl Rendering.write rendering).pieces =
      named rendering.pieces ++ spelledFrom rendering.target statements := by
  induction statements generalizing rendering with
  | nil => simp [spelledFrom]
  | cons statement rest ih =>
      rw [List.foldl_cons, ih]
      simp [Rendering.write, spelledFrom, named_append, Statement.named_pieces]

theorem named_ofStatements (statements : List Statement) :
    named (Rendering.ofStatements statements).pieces = spelledFrom none statements :=
  named_foldl_write {} statements

end RelationQuery.Sql
