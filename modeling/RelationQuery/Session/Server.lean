import RelationQuery.Query.Bindings
import RelationQuery.Row
import RelationQuery.Wire.Parameter

/-!
# A statement on the server

A server is given by its answers: the types it expects of the parameters, the rows or the count that
the statement yields, and the stages that it refuses. Running a statement leaves a log of the
commands that the server receives.

A statement runs in a transaction of its own, on a connection taken for it, or on a client of the
caller, who owns any transaction. A transaction of its own ends with a commit if the statement has
succeeded, and with a rollback otherwise; the failure of the rollback is not reported.
-/

namespace RelationQuery.Session

/-- A command that the server receives, or a connection taken or given back. -/
inductive Event where
  | acquire
  | release
  | begin
  | commit
  | rollback
  | prepare (sql : String)
  | execute (params : List Cell)
  deriving DecidableEq, Repr

structure Refusals where
  begin : Option String := none
  prepare : Option String := none
  execute : Option String := none
  commit : Option String := none
  rollback : Option String := none
  deriving DecidableEq, Repr

structure Server where
  paramTypes : List ColumnType := []
  columns : List Column := []
  rows : List (List Cell) := []
  affected : Nat := 0
  refusals : Refusals := {}
  deriving DecidableEq, Repr

/-- A log, and how what it records has ended. -/
structure Run (α : Type) where
  log : List Event
  result : Except Cause α

namespace Run

variable {α β : Type}

def done (a : α) : Run α := ⟨[], .ok a⟩

def ofExcept (result : Except Cause α) : Run α := ⟨[], result⟩

/-- Goes on from a success with a further run, whose log comes behind. -/
def andThen (run : Run α) (next : α → Run β) : Run β :=
  match run.result with
  | .error cause => ⟨run.log, .error cause⟩
  | .ok a => ⟨run.log ++ (next a).log, (next a).result⟩

instance : Monad Run where
  pure := done
  bind := andThen

def send (event : Event) (refusal : Option String) : Run Unit :=
  ⟨[event], match refusal with
    | none => .ok ()
    | some message => .error (.database (.server message))⟩

def followedBy (run : Run α) (events : List Event) : Run α := ⟨run.log ++ events, run.result⟩

end Run

inductive Fetch where
  | rows
  | count
  deriving DecidableEq, Repr

inductive Output where
  | rows (rows : List Row)
  | count (n : Nat)

/-- The greatest number of a placeholder `$k` in a text. -/
def highestPlaceholder : List Char → Nat
  | [] => 0
  | '$' :: rest =>
      max (Text.digitsValue (rest.takeWhile Char.isDigit)) (highestPlaceholder rest)
  | _ :: rest => highestPlaceholder rest

/-- The type of the parameter at a place, counted from zero; where the server does not say it,
text. -/
def Server.typeAt (server : Server) (place : Nat) : ColumnType :=
  (server.paramTypes[place]?).getD (.scalar .text)

def Server.encodeFrom (server : Server) : Nat → List Value → Except Cause (List Cell)
  | _, [] => .ok []
  | place, value :: rest =>
      match Wire.bind (server.typeAt place) value with
      | .error refusal => .error (.database (.parameter place refusal))
      | .ok cell => return cell :: (← server.encodeFrom (place + 1) rest)

/-- The parameters of a statement in binary form, if there are as many as the statement has. -/
def Server.bindAll (server : Server) (compiled : Compiled) : Except Cause (List Cell) :=
  let expected := highestPlaceholder compiled.sql.toList
  if expected = compiled.params.length then server.encodeFrom 0 compiled.params
  else .error (.database (.parameterCount expected compiled.params.length))

def Server.output (server : Server) : Fetch → Except Cause Output
  | .rows => (server.rows.mapM (Row.decode server.columns)).map .rows
  | .count => .ok (.count server.affected)

/-- Prepares a statement, binds its parameters, executes it and reads what it yields. -/
def Server.execute (server : Server) (compiled : Compiled) (fetch : Fetch) : Run Output := do
  Run.send (.prepare compiled.sql) server.refusals.prepare
  let params ← Run.ofExcept (server.bindAll compiled)
  Run.send (.execute params) server.refusals.execute
  Run.ofExcept (server.output fetch)

/-! ## Connections and transactions -/

/-- Where a statement runs: on a connection taken for it, unless that is refused for a reason, or on
the client of the caller. -/
inductive Connection where
  | owned (refusal : Option String)
  | borrowed
  deriving DecidableEq, Repr

def conclude (server : Server) (run : Run Output) : Run Output :=
  match run.result with
  | .error _ => run.followedBy [.rollback]
  | .ok output => do
      let _ ← run
      Run.send .commit server.refusals.commit
      Run.done output

def transaction (server : Server) (compiled : Compiled) (fetch : Fetch) : Run Output := do
  Run.send .begin server.refusals.begin
  conclude server (server.execute compiled fetch)

def runOwned (refusal : Option String) (server : Server) (compiled : Compiled) (fetch : Fetch) :
    Run Output :=
  match refusal with
  | some reason => ⟨[.acquire], .error (.pool reason)⟩
  | none =>
      let inner := transaction server compiled fetch
      ⟨.acquire :: inner.log ++ [.release], inner.result⟩

/-- Runs a statement on a connection; only on a connection of its own is there a transaction. -/
def Connection.run (connection : Connection) (server : Server) (compiled : Compiled)
    (fetch : Fetch) : Run Output :=
  match connection with
  | .owned refusal => runOwned refusal server compiled fetch
  | .borrowed => server.execute compiled fetch

end RelationQuery.Session
