import RelationQuery.Query.Compile
import RelationQuery.Row
import RelationQuery.Session.Server

/-!
# Running queries

A query is compiled, its statement runs in a session, and what it yields becomes a response. A query
that fails to compile, or has nothing to do, never reaches the server.
-/

namespace RelationQuery

open Session (Connection Server Fetch Output Run)

inductive Query where
  | get (query : GetQuery)
  | patch (query : PatchQuery)
  | delete (query : DeleteQuery)
  | post (query : PostQuery)
  | lastUpdate (query : LastUpdateQuery)

namespace Query

def operation : Query → Operation
  | .get _ => .get
  | .patch _ => .patch
  | .delete _ => .delete
  | .post _ => .post
  | .lastUpdate _ => .lastUpdate

def relation : Query → Sql.Relation
  | .get query => query.relation
  | .patch query => query.relation
  | .delete query => query.relation
  | .post query => query.relation
  | .lastUpdate query => query.relation

/-- The statement of a query, or none when there is nothing to do. -/
def compile : Query → Except Cause (Option Compiled)
  | .get query => query.compile.map some
  | .patch query => query.compile
  | .delete query => query.compile.map some
  | .post query => .ok (some query.compile)
  | .lastUpdate query => query.compile.map some

def fetch : Query → Fetch
  | .get _ => .rows
  | .patch query => if query.returning then .rows else .count
  | .delete _ => .count
  | .post query => if query.returning then .rows else .count
  | .lastUpdate _ => .rows

def onlyRow : List Row → Except Cause Response
  | [] => .error .notFound
  | [row] => .ok ⟨some (.one row)⟩
  | rows => .error (.cardinality rows.length)

def respondRows (query : Query) (rows : List Row) : Except Cause Response :=
  match query with
  | .get query =>
      if query.id.isSome && !query.forceAsList then .ok (.first rows)
      else .ok (.ofRows rows query.forceAsList)
  | .lastUpdate _ => onlyRow rows
  | _ => .ok (.ofRows rows false)

def respond (query : Query) : Output → Except Cause Response
  | .rows rows => query.respondRows rows
  | .count n => .ok (.affected n)

def runOn (query : Query) (connection : Connection) (server : Server) : Run Response := do
  match ← Run.ofExcept query.compile with
  | none => Run.done .empty
  | some compiled => do
      let output ← connection.run server compiled query.fetch
      Run.ofExcept (query.respond output)

def fail (query : Query) (cause : Cause) : Failure :=
  ⟨query.operation, query.relation.scheme, query.relation.table, cause⟩

end Query

end RelationQuery
