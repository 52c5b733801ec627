import RelationQuery.Proofs.BoundValues
import RelationQuery.Proofs.Numbering
import RelationQuery.Query.Run

/-!
# What compiling a query comes to

A query that compiles has passed its checks, made its predicates and bound its values; its statement
is then written with the names numbered by place. The parts of a statement before and behind its
conditions are named here, as all that is said of a statement is said of these parts.
-/

namespace RelationQuery

/-- How a query has become a statement with the values of its placeholders. -/
inductive Query.Built : Query → Bindings → Sql.Statement → Prop where
  | get {query : GetQuery} {predicates : List Predicate} {bindings : Bindings}
      (made : query.predicates = .ok predicates)
      (bound : query.bindings predicates = .ok bindings) :
      Built (.get query) bindings (.select (query.statement predicates))
  | patch {query : PatchQuery} {predicates : List Predicate} {bindings : Bindings}
      (writes : query.writable.isEmpty = false)
      (made : query.predicates = .ok predicates)
      (restricted : (query.id.isNone && predicates.isEmpty && !query.allowUnfiltered) = false)
      (bound : query.bindings predicates = .ok bindings) :
      Built (.patch query) bindings (.update (query.statement predicates))
  | delete {query : DeleteQuery} {predicates : List Predicate} {bindings : Bindings}
      (made : query.predicates = .ok predicates)
      (restricted : (query.id.isNone && predicates.isEmpty) = false)
      (bound : query.bindings predicates = .ok bindings) :
      Built (.delete query) bindings (.delete (query.statement predicates))
  | post {query : PostQuery} :
      Built (.post query) (.ofList (namedValues query.columns)) (.insert query.statement)
  | lastUpdate {query : LastUpdateQuery} {bindings : Bindings}
      (bound : query.bindings = .ok bindings) :
      Built (.lastUpdate query) bindings (.select query.statement)

theorem map_eq_ok {ε α β : Type} {result : Except ε α} {change : α → β} {b : β} :
    result.map change = .ok b ↔ ∃ a, result = .ok a ∧ change a = b := by
  cases result with
  | error cause => exact ⟨fun same => (nomatch same), fun ⟨_, same, _⟩ => (nomatch same)⟩
  | ok a => exact ⟨fun same => ⟨a, rfl, Except.ok.inj same⟩, fun ⟨_, same, rest⟩ => by
      cases same
      exact congrArg Except.ok rest⟩

namespace GetQuery

theorem compile_eq_ok {query : GetQuery} {compiled : Compiled}
    (made : query.compile = .ok compiled) :
    ∃ predicates bindings, query.predicates = .ok predicates ∧
      query.bindings predicates = .ok bindings ∧
      compiled = bindings.compile (.select (query.statement predicates)) := by
  obtain ⟨_, _, made⟩ := bind_eq_ok.mp made
  obtain ⟨predicates, known, made⟩ := bind_eq_ok.mp made
  obtain ⟨bindings, bound, made⟩ := bind_eq_ok.mp made
  exact ⟨predicates, bindings, known, bound, (Except.ok.inj made).symm⟩

end GetQuery

namespace PatchQuery

theorem compile_eq_ok {query : PatchQuery} {compiled : Compiled}
    (made : query.compile = .ok (some compiled)) :
    query.writable.isEmpty = false ∧ ∃ predicates bindings, query.predicates = .ok predicates ∧
      (query.id.isNone && predicates.isEmpty && !query.allowUnfiltered) = false ∧
      query.bindings predicates = .ok bindings ∧
      compiled = bindings.compile (.update (query.statement predicates)) := by
  unfold compile at made
  cases writes : query.writable.isEmpty with
  | true =>
      rw [writes] at made
      cases made
  | false =>
      rw [writes] at made
      obtain ⟨predicates, known, made⟩ := bind_eq_ok.mp made
      cases free : query.id.isNone && predicates.isEmpty && !query.allowUnfiltered with
      | true =>
          rw [free] at made
          cases made
      | false =>
          rw [free] at made
          obtain ⟨bindings, bound, made⟩ := bind_eq_ok.mp made
          exact ⟨rfl, predicates, bindings, known, free, bound,
            (Option.some.inj (Except.ok.inj made)).symm⟩

end PatchQuery

namespace DeleteQuery

theorem compile_eq_ok {query : DeleteQuery} {compiled : Compiled}
    (made : query.compile = .ok compiled) :
    ∃ predicates bindings, query.predicates = .ok predicates ∧
      (query.id.isNone && predicates.isEmpty) = false ∧
      query.bindings predicates = .ok bindings ∧
      compiled = bindings.compile (.delete (query.statement predicates)) := by
  obtain ⟨predicates, known, made⟩ := bind_eq_ok.mp made
  cases free : query.id.isNone && predicates.isEmpty with
  | true =>
      rw [free] at made
      cases made
  | false =>
      rw [free] at made
      obtain ⟨bindings, bound, made⟩ := bind_eq_ok.mp made
      exact ⟨predicates, bindings, known, free, bound, (Except.ok.inj made).symm⟩

end DeleteQuery

/-- A query that yields a statement has been built. -/
theorem Query.built_of_compile {query : Query} {compiled : Compiled}
    (made : query.compile = .ok (some compiled)) :
    ∃ bindings statement, query.Built bindings statement ∧
      compiled = bindings.compile statement := by
  cases query with
  | get query =>
      obtain ⟨_, made, same⟩ := map_eq_ok.mp made
      cases same
      obtain ⟨predicates, bindings, known, bound, written⟩ := GetQuery.compile_eq_ok made
      exact ⟨bindings, _, .get known bound, written⟩
  | patch query =>
      obtain ⟨writes, predicates, bindings, known, restricted, bound, written⟩ :=
        PatchQuery.compile_eq_ok made
      exact ⟨bindings, _, .patch writes known restricted bound, written⟩
  | delete query =>
      obtain ⟨_, made, same⟩ := map_eq_ok.mp made
      cases same
      obtain ⟨predicates, bindings, known, restricted, bound, written⟩ :=
        DeleteQuery.compile_eq_ok made
      exact ⟨bindings, _, .delete known restricted bound, written⟩
  | post query =>
      cases made
      exact ⟨_, _, .post, rfl⟩
  | lastUpdate query =>
      obtain ⟨_, made, same⟩ := map_eq_ok.mp made
      cases same
      obtain ⟨bindings, bound, written⟩ := bind_eq_ok.mp made
      exact ⟨bindings, _, .lastUpdate bound, (Except.ok.inj written).symm⟩

/-- The statement of a query names the relation of the query. -/
theorem Query.Built.relation {query : Query} {bindings : Bindings} {statement : Sql.Statement}
    (built : query.Built bindings statement) : statement.relation? = some query.relation := by
  cases built <;> rfl

/-! ## The parts of a statement -/

namespace Sql

def Select.head (target : Option Relation) (statement : Select) : List Piece :=
  literal "SELECT " ++
  (if statement.columns.isEmpty then [.char '*']
    else separated ", " (statement.columns.map (·.pieces target))) ++
  (match statement.source with
    | none => []
    | some relation => literal " FROM " ++ literal relation.qualified) ++
  statement.joins.flatMap (·.pieces target)

def Select.tail (target : Option Relation) (statement : Select) : List Piece :=
  listClause " GROUP BY " (statement.groupBy.map (·.pieces target)) ++
  listClause " ORDER BY " (statement.orderBy.map (·.pieces target)) ++
  optionalClause target " LIMIT " statement.limit ++
  optionalClause target " OFFSET " statement.offset

def Insert.head (target : Option Relation) (statement : Insert) : List Piece :=
  literal "INSERT INTO " ++ literal statement.relation.qualified ++
  if statement.columns.isEmpty then literal " DEFAULT VALUES"
  else
    literal " (" ++ separated ", " (statement.columns.map (literal ·.1)) ++
    literal ") VALUES (" ++ separated ", " (statement.columns.map (·.2.pieces target)) ++
    [.char ')']

def Update.head (target : Option Relation) (statement : Update) : List Piece :=
  literal "UPDATE " ++ literal statement.relation.qualified ++ literal " SET " ++
  separated ", " (statement.assignments.map fun assignment =>
    literal assignment.1 ++ literal " = " ++ assignment.2.pieces target)

namespace Statement

def head (target : Option Relation) : Statement → List Piece
  | .select statement => statement.head target
  | .insert statement => statement.head target
  | .update statement => statement.head target
  | .delete statement => literal "DELETE FROM " ++ literal statement.relation.qualified
  | .bare expr => expr.pieces target

def conditions? : Statement → Option (List Expr)
  | .select statement => some statement.conditions
  | .insert _ => none
  | .update statement => some statement.conditions
  | .delete statement => some statement.conditions
  | .bare _ => none

def tail (target : Option Relation) : Statement → List Piece
  | .select statement => statement.tail target
  | .insert statement => returningClause statement.returning
  | .update statement => returningClause statement.returning
  | .delete statement => returningClause statement.returning
  | .bare _ => []

theorem pieces_eq (target : Option Relation) (statement : Statement) :
    statement.pieces target = statement.head target ++
      statement.conditions?.elim [] (whereClause target) ++ statement.tail target := by
  cases statement with
  | select statement =>
      change Select.pieces target statement = Select.head target statement ++
        whereClause target statement.conditions ++ Select.tail target statement
      unfold Select.tail
      rw [← List.append_assoc, ← List.append_assoc, ← List.append_assoc]
      rfl
  | insert statement =>
      change Insert.pieces target statement = Insert.head target statement ++ [] ++ _
      rw [List.append_nil]
      rfl
  | update statement => rfl
  | delete statement => rfl
  | bare expr =>
      change expr.pieces target = expr.pieces target ++ [] ++ []
      rw [List.append_nil, List.append_nil]

end Statement

end Sql

end RelationQuery
