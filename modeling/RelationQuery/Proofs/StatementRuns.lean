import Mathlib.Data.List.Forall2
import RelationQuery.Proofs.Compilation
import RelationQuery.Proofs.GeneratedPredicates

/-!
# How the run of a statement ends

Preparing, binding, executing and reading come one after the other, and the first of them to fail
ends the run. What each of them takes is said here of the answers of the server alone, so that the
end of a run and its log are known from these answers.
-/

namespace RelationQuery

/-! ## The first failure in a list -/

/-- The cause is that of the first item on which the action fails. -/
def FirstFailure {ε α β : Type} (action : α → Except ε β) (items : List α) (cause : ε) : Prop :=
  ∃ front item behind, items = front ++ item :: behind ∧ (∀ earlier ∈ front, ∃ b,
    action earlier = .ok b) ∧ action item = .error cause

section FirstFailure

variable {ε α β : Type} {action : α → Except ε β}

theorem FirstFailure.cons {first : α} {b : β} (passed : action first = .ok b) {rest : List α}
    {cause : ε} (later : FirstFailure action rest cause) :
    FirstFailure action (first :: rest) cause := by
  obtain ⟨front, item, behind, rfl, before, failed⟩ := later
  exact ⟨first :: front, item, behind, rfl, List.forall_mem_cons.mpr ⟨⟨b, passed⟩, before⟩, failed⟩

/-- Nothing fails first where nothing fails. -/
theorem FirstFailure.elim {items : List α} {cause : ε} (failed : FirstFailure action items cause)
    (all : ∀ item ∈ items, ∃ b, action item = .ok b) : False := by
  obtain ⟨front, item, behind, rfl, _, here⟩ := failed
  obtain ⟨b, passed⟩ := all item (List.mem_append_right _ List.mem_cons_self)
  rw [here] at passed
  cases passed

theorem forall₂_of_mapM {items : List α} {results : List β}
    (passed : items.mapM action = .ok results) :
    List.Forall₂ (fun item result => action item = .ok result) items results := by
  induction items generalizing results with
  | nil =>
      cases passed
      exact .nil
  | cons item rest ih =>
      rw [List.mapM_cons] at passed
      obtain ⟨b, here, passed⟩ := bind_eq_ok.mp passed
      obtain ⟨others, later, same⟩ := bind_eq_ok.mp passed
      cases same
      exact .cons here (ih later)

theorem firstFailure_of_mapM {items : List α} {cause : ε}
    (failed : items.mapM action = .error cause) : FirstFailure action items cause := by
  induction items with
  | nil => cases failed
  | cons item rest ih =>
      rw [List.mapM_cons] at failed
      cases here : action item with
      | error reason =>
          rw [here] at failed
          cases failed
          exact ⟨[], item, rest, rfl, fun _ member => (nomatch member), here⟩
      | ok b =>
          rw [here] at failed
          cases later : rest.mapM action with
          | error reason =>
              simp only [later] at failed
              cases failed
              exact (ih later).cons here
          | ok others =>
              simp only [later] at failed
              cases failed

end FirstFailure

namespace Session

/-! ## Parameters and rows -/

def Server.bindAt (server : Server) (item : Value × Nat) : Except Cause Cell :=
  match Wire.bind (server.typeAt item.2) item.1 with
  | .error refusal => .error (.database (.parameter item.2 refusal))
  | .ok cell => .ok cell

theorem Server.encodeFrom_eq (server : Server) (place : Nat) (values : List Value) :
    server.encodeFrom place values = (values.zipIdx place).mapM server.bindAt := by
  induction values generalizing place with
  | nil => rfl
  | cons value rest ih =>
      rw [List.zipIdx_cons, List.mapM_cons, encodeFrom, ih, bindAt]
      cases Wire.bind (server.typeAt place) value <;> rfl

/-- The statement has as many parameters as the text has places for, and each of them fits. -/
structure Server.Binds (server : Server) (compiled : Compiled) (cells : List Cell) : Prop where
  counted : highestPlaceholder compiled.sql.toList = compiled.params.length
  each : List.Forall₂ (fun item cell => Wire.bind (server.typeAt item.2) item.1 = .ok cell)
    compiled.params.zipIdx cells

inductive Server.BindFailure (server : Server) (compiled : Compiled) : Cause → Prop where
  | count (differs : highestPlaceholder compiled.sql.toList ≠ compiled.params.length) :
      BindFailure server compiled (.database (.parameterCount
        (highestPlaceholder compiled.sql.toList) compiled.params.length))
  | parameter {cause : Cause}
      (counted : highestPlaceholder compiled.sql.toList = compiled.params.length)
      (first : FirstFailure server.bindAt compiled.params.zipIdx cause) :
      BindFailure server compiled cause

inductive Server.Yields (server : Server) : Fetch → Output → Prop where
  | rows {rows : List Row}
      (each : List.Forall₂ (fun cells row => Row.decode server.columns cells = .ok row)
        server.rows rows) : Yields server .rows (.rows rows)
  | count : Yields server .count (.count server.affected)

section Answers

variable {server : Server} {compiled : Compiled}

theorem Server.binds_of_bindAll {cells : List Cell} (bound : server.bindAll compiled = .ok cells) :
    server.Binds compiled cells := by
  unfold bindAll at bound
  dsimp only at bound
  split at bound
  · rename_i counted
    rw [encodeFrom_eq] at bound
    refine ⟨counted, (forall₂_of_mapM bound).imp fun item cell here => ?_⟩
    unfold bindAt at here
    cases fits : Wire.bind (server.typeAt item.2) item.1 with
    | error refusal =>
        rw [fits] at here
        cases here
    | ok other =>
        rw [fits] at here
        cases here
        rfl
  · cases bound

theorem Server.bindFailure_of_bindAll {cause : Cause}
    (failed : server.bindAll compiled = .error cause) : server.BindFailure compiled cause := by
  unfold bindAll at failed
  dsimp only at failed
  split at failed
  · rename_i counted
    rw [encodeFrom_eq] at failed
    exact .parameter counted (firstFailure_of_mapM failed)
  · rename_i differs
    cases failed
    exact .count differs

/-- Parameters that are bound have no cause for which they are not. -/
theorem Server.BindFailure.elim {cause : Cause} (failed : server.BindFailure compiled cause)
    {cells : List Cell} (bound : server.Binds compiled cells) : False := by
  cases failed with
  | count differs => exact differs bound.counted
  | parameter _ first =>
      refine first.elim fun item member => ?_
      obtain ⟨cell, _, fits⟩ := exists_of_forall₂_right bound.each.flip member
      exact ⟨cell, by rw [bindAt, fits]⟩

theorem Server.yields_of_output {fetch : Fetch} {output : Output}
    (read : server.output fetch = .ok output) : server.Yields fetch output := by
  cases fetch with
  | rows =>
      obtain ⟨rows, decoded, rfl⟩ := map_eq_ok.mp read
      exact .rows (forall₂_of_mapM decoded)
  | count =>
      cases read
      exact .count

theorem Server.firstFailure_of_output {fetch : Fetch} {cause : Cause}
    (failed : server.output fetch = .error cause) :
    fetch = .rows ∧ FirstFailure (Row.decode server.columns) server.rows cause := by
  cases fetch with
  | rows =>
      refine ⟨rfl, firstFailure_of_mapM ?_⟩
      cases decoded : server.rows.mapM (Row.decode server.columns) with
      | error reason =>
          rw [output, decoded] at failed
          cases failed
          rfl
      | ok rows =>
          rw [output, decoded] at failed
          cases failed
  | count => cases failed

end Answers

/-! ## The run -/

def Event.isStatement : Event → Bool
  | .prepare _ => true
  | .execute _ => true
  | _ => false

/-- The ways in which the run of a statement ends, each with its log. -/
inductive Server.Executes (server : Server) (compiled : Compiled) (fetch : Fetch) :
    Run Output → Prop where
  | unprepared {message : String} (refused : server.refusals.prepare = some message) :
      Executes server compiled fetch
        ⟨[.prepare compiled.sql], .error (.database (.server message))⟩
  | unbound {cause : Cause} (prepared : server.refusals.prepare = none)
      (failed : server.BindFailure compiled cause) :
      Executes server compiled fetch ⟨[.prepare compiled.sql], .error cause⟩
  | refused {cells : List Cell} {message : String} (prepared : server.refusals.prepare = none)
      (bound : server.Binds compiled cells) (refused : server.refusals.execute = some message) :
      Executes server compiled fetch
        ⟨[.prepare compiled.sql, .execute cells], .error (.database (.server message))⟩
  | unread {cells : List Cell} {cause : Cause} (prepared : server.refusals.prepare = none)
      (bound : server.Binds compiled cells) (executed : server.refusals.execute = none)
      (wanted : fetch = .rows)
      (failed : FirstFailure (Row.decode server.columns) server.rows cause) :
      Executes server compiled fetch ⟨[.prepare compiled.sql, .execute cells], .error cause⟩
  | yields {cells : List Cell} {output : Output} (prepared : server.refusals.prepare = none)
      (bound : server.Binds compiled cells) (executed : server.refusals.execute = none)
      (read : server.Yields fetch output) :
      Executes server compiled fetch ⟨[.prepare compiled.sql, .execute cells], .ok output⟩

theorem Server.executes (server : Server) (compiled : Compiled) (fetch : Fetch) :
    server.Executes compiled fetch (server.execute compiled fetch) := by
  unfold execute
  cases prepared : server.refusals.prepare with
  | some message => exact .unprepared prepared
  | none =>
      cases bound : server.bindAll compiled with
      | error cause => exact .unbound prepared (bindFailure_of_bindAll bound)
      | ok cells =>
          have binds := binds_of_bindAll bound
          cases executed : server.refusals.execute with
          | some message => exact .refused prepared binds executed
          | none =>
              cases read : server.output fetch with
              | error cause =>
                  obtain ⟨wanted, failed⟩ := firstFailure_of_output read
                  exact .unread prepared binds executed wanted failed
              | ok output => exact .yields prepared binds executed (yields_of_output read)

/-- All that a statement takes: it is prepared, its parameters are bound, it is executed, and where
rows are wanted each of them has a form. -/
structure Server.Succeeds (server : Server) (compiled : Compiled) (fetch : Fetch) : Prop where
  prepared : server.refusals.prepare = none
  bound : ∃ cells, server.Binds compiled cells
  executed : server.refusals.execute = none
  decoded : fetch = .rows → ∀ cells ∈ server.rows, ∃ row, Row.decode server.columns cells = .ok row

namespace Server.Executes

variable {server : Server} {compiled : Compiled} {fetch : Fetch}

/-- A statement that yields something has been prepared, and executed with its values. -/
theorem log_of_ok {log : List Event} {output : Output}
    (ended : server.Executes compiled fetch ⟨log, .ok output⟩) :
    ∃ cells, server.Binds compiled cells ∧ server.Yields fetch output ∧
      log = [.prepare compiled.sql, .execute cells] := by
  cases ended with
  | yields _ bound _ read => exact ⟨_, bound, read, rfl⟩

theorem succeeds {log : List Event} {output : Output}
    (ended : server.Executes compiled fetch ⟨log, .ok output⟩) :
    server.Succeeds compiled fetch := by
  cases ended with
  | yields prepared bound executed read =>
      refine ⟨prepared, ⟨_, bound⟩, executed, fun wanted cells member => ?_⟩
      cases read with
      | rows each =>
          obtain ⟨row, _, decoded⟩ := exists_of_forall₂_right each.flip member
          exact ⟨row, decoded⟩
      | count => cases wanted

/-- A statement that takes nothing it does not get cannot fail. -/
theorem not_succeeds {log : List Event} {cause : Cause}
    (ended : server.Executes compiled fetch ⟨log, .error cause⟩) :
    ¬ server.Succeeds compiled fetch := by
  intro all
  cases ended with
  | unprepared refused =>
      rw [all.prepared] at refused
      cases refused
  | unbound _ failed =>
      obtain ⟨cells, bound⟩ := all.bound
      exact failed.elim bound
  | refused _ _ refused =>
      rw [all.executed] at refused
      cases refused
  | unread _ _ _ wanted failed => exact failed.elim (all.decoded wanted)

/-- The log of a statement holds nothing but the statement. -/
theorem isStatement {run : Run Output} (ended : server.Executes compiled fetch run) :
    ∀ event ∈ run.log, event.isStatement = true := by
  cases ended <;> simp [Event.isStatement]

theorem not_mem {run : Run Output} (ended : server.Executes compiled fetch run) (event : Event)
    (other : event.isStatement = false) : event ∉ run.log := by
  intro member
  rw [ended.isStatement event member] at other
  cases other

end Server.Executes

end Session

/-! ## The run of a query -/

namespace Query

variable {query : Query} (connection : Session.Connection) (server : Session.Server)

theorem runOn_of_error {cause : Cause} (failed : query.compile = .error cause) :
    query.runOn connection server = ⟨[], .error cause⟩ := by
  unfold runOn
  rw [failed]
  rfl

theorem runOn_of_none (nothing : query.compile = .ok none) :
    query.runOn connection server = ⟨[], .ok .empty⟩ := by
  unfold runOn
  rw [nothing]
  rfl

/-- The log of a query is that of its statement. -/
theorem runOn_of_some {compiled : Compiled} (made : query.compile = .ok (some compiled)) :
    query.runOn connection server =
      ⟨(connection.run server compiled query.fetch).log,
        (connection.run server compiled query.fetch).result >>= query.respond⟩ := by
  unfold runOn
  rw [made]
  change (connection.run server compiled query.fetch).andThen
    (fun output => Session.Run.ofExcept (query.respond output)) = _
  generalize connection.run server compiled query.fetch = run
  obtain ⟨log, result⟩ := run
  cases result with
  | error cause => rfl
  | ok output => exact congrArg (Session.Run.mk · _) (List.append_nil log)

/-- Wherever it runs, a query does nothing or sends its statement. -/
theorem runOn_cases (query : Query) :
    (∃ result, ∀ connection server, query.runOn connection server = ⟨[], result⟩) ∨
      ∃ compiled, query.compile = .ok (some compiled) := by
  cases made : query.compile with
  | error cause => exact .inl ⟨_, fun _ _ => runOn_of_error _ _ made⟩
  | ok statement =>
      cases statement with
      | none => exact .inl ⟨_, fun _ _ => runOn_of_none _ _ made⟩
      | some compiled => exact .inr ⟨compiled, rfl⟩

end Query

end RelationQuery
