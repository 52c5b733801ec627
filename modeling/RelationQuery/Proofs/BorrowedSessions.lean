import RelationQuery.Proofs.StatementRuns
import RelationQuery.Session.Scenario

/-!
# Sessions on the client of the caller

A query that runs on the client of the caller sends its statement and nothing else. It comes to the
same end as on a connection of its own whose transaction begins and commits, whatever becomes of a
rollback. In a transaction of the caller, queries one after the other leave the commands of the
transaction to the caller, also when some of them fail.
-/

namespace RelationQuery

namespace Session

/-! ## One transaction -/

def Server.withTransaction (server : Server) (begin commit rollback : Option String) : Server :=
  { server with refusals := { server.refusals with begin, commit, rollback } }

/-- A statement does not depend on what becomes of a transaction. -/
theorem Server.execute_withTransaction (server : Server) (begin commit rollback : Option String)
    (compiled : Compiled) (fetch : Fetch) :
    (server.withTransaction begin commit rollback).execute compiled fetch =
      server.execute compiled fetch := by
  have bound : (server.withTransaction begin commit rollback).bindAll compiled =
      server.bindAll compiled := by
    unfold bindAll
    rw [encodeFrom_eq, encodeFrom_eq]
    rfl
  unfold execute
  rw [bound]
  rfl

/-- A transaction that begins, and commits if it comes to that, adds its beginning and its end to
the log of the statement and nothing to the result. -/
theorem transaction_of_obeyed {server : Server} (begun : server.refusals.begin = none)
    (obeyed : server.refusals.commit = none) (compiled : Compiled) (fetch : Fetch) :
    ∃ ending : Ending, transaction server compiled fetch =
      ⟨.begin :: ((server.execute compiled fetch).log ++ [ending.event]),
        (server.execute compiled fetch).result⟩ := by
  unfold transaction
  rw [begun]
  generalize server.execute compiled fetch = run
  obtain ⟨log, result⟩ := run
  cases result with
  | error cause => exact ⟨.rollback, rfl⟩
  | ok output =>
      refine ⟨.commit, ?_⟩
      unfold conclude
      rw [obeyed]
      rfl

/-- Two runs that come to the same end and hand over the same statements, in the same order. -/
structure Run.Agrees {α : Type} (own lent : Run α) : Prop where
  outcome : own.result = lent.result
  statements : own.log.filter Event.isStatement = lent.log.filter Event.isStatement

theorem Run.Agrees.refl {α : Type} (run : Run α) : run.Agrees run := ⟨rfl, rfl⟩

/-- A granted connection whose transaction begins and commits agrees with the client of the
caller. -/
theorem owned_agrees_borrowed {server : Server} (begun : server.refusals.begin = none)
    (obeyed : server.refusals.commit = none) (compiled : Compiled) (fetch : Fetch) :
    (Connection.run (.owned none) server compiled fetch).Agrees
      (Connection.run .borrowed server compiled fetch) := by
  obtain ⟨ending, whole⟩ := transaction_of_obeyed begun obeyed compiled fetch
  have own : Connection.run (.owned none) server compiled fetch =
      ⟨.acquire :: .begin :: ((server.execute compiled fetch).log ++ [ending.event]) ++ [.release],
        (server.execute compiled fetch).result⟩ := by
    unfold Connection.run runOwned
    rw [whole]
  rw [own]
  constructor
  · rfl
  · cases ending <;> simp [Connection.run, Event.isStatement, Ending.event]

end Session

open Session (Server Event Run Step Scenario Ending)

namespace Query

variable (query : Query)

/-- Where a query runs, its outcome and its statements are the same, if its own transaction begins
and commits. -/
theorem runOn_agrees {server : Server} (begun : server.refusals.begin = none)
    (obeyed : server.refusals.commit = none) (begin commit rollback : Option String) :
    (query.runOn (.owned none) server).Agrees
      (query.runOn .borrowed (server.withTransaction begin commit rollback)) := by
  rcases query.runOn_cases with ⟨result, alone⟩ | ⟨compiled, made⟩
  · rw [alone, alone]
    exact .refl _
  · have agree := Session.owned_agrees_borrowed begun obeyed compiled query.fetch
    have same := server.execute_withTransaction begin commit rollback compiled query.fetch
    rw [runOn_of_some _ _ made, runOn_of_some _ _ made]
    simp only [Session.Connection.run] at agree ⊢
    rw [same]
    exact ⟨congrArg (· >>= query.respond) agree.outcome, agree.statements⟩

/-- On the client of the caller a query hands over its statement and sends nothing else. -/
theorem isStatement_of_borrowed (server : Server) :
    ∀ event ∈ (query.runOn .borrowed server).log, event.isStatement = true := by
  rcases query.runOn_cases with ⟨result, alone⟩ | ⟨compiled, made⟩
  · rw [alone]
    simp
  · rw [runOn_of_some _ _ made]
    exact (server.executes compiled query.fetch).isStatement

end Query

namespace Session

/-! ## Several queries -/

namespace Step

def lend (step : Step) : Step := { step with connection := .borrowed }

structure Granted (step : Step) : Prop where
  connection : step.connection = .owned none
  begun : step.server.refusals.begin = none
  obeyed : step.server.refusals.commit = none

/-- A server that answers as it does agrees with itself. -/
theorem agrees_lend {step : Step} (granted : step.Granted) : step.run.Agrees step.lend.run := by
  have agree := step.query.runOn_agrees granted.begun granted.obeyed step.server.refusals.begin
    step.server.refusals.commit step.server.refusals.rollback
  unfold run
  rw [granted.connection]
  exact agree

theorem leavesRollback_of_granted {step : Step} (granted : step.Granted) :
    step.leavesRollback false = false := by
  simp [leavesRollback, granted.begun]

theorem isStatement_of_lent {step : Step} (lent : step.connection = .borrowed) :
    ∀ event ∈ step.run.log, event.isStatement = true := by
  unfold run
  rw [lent]
  exact step.query.isStatement_of_borrowed step.server

theorem leavesRollback_of_lent {step : Step} (lent : step.connection = .borrowed) :
    step.leavesRollback false = false := by
  have unbegun : .begin ∉ step.run.log := by
    intro begun
    cases isStatement_of_lent lent .begin begun
  simp [leavesRollback, unbegun]

/-- Steps that leave no rollback under way run each as if alone. -/
theorem runAll_of_none {steps : List Step}
    (none : ∀ step ∈ steps, step.leavesRollback false = false) :
    runAll false steps = (steps.map fun step => (step, step.run), false) := by
  induction steps with
  | nil => rfl
  | cons step rest ih =>
      obtain ⟨here, later⟩ := List.forall_mem_cons.mp none
      rw [runAll, here, ih later]
      rfl

end Step

namespace Scenario

/-- All that the server receives, and the connections taken and given back. -/
def log (scenario : Scenario) : List Event :=
  scenario.results.flatMap (fun done => done.2.log) ++ scenario.closing.getD []

def tail (scenario : Scenario) : List Event := scenario.ending.toList.map Ending.event

/-- Where no rollback is under way, the logs of the steps stand between the commands of the
caller. -/
theorem log_of_none {scenario : Scenario}
    (none : ∀ step ∈ scenario.steps, step.leavesRollback false = false) :
    scenario.log =
      scenario.head ++ (scenario.steps.flatMap fun step => step.run.log) ++ scenario.tail := by
  obtain ⟨steps, ending⟩ := scenario
  unfold log results closing
  rw [Step.runAll_of_none none]
  cases steps with
  | nil => cases ending <;> rfl
  | cons step rest =>
      cases ending <;>
        simp [head, tail, arrive, List.flatMap_map]

end Scenario

end Session

/-- A query on the client of the caller comes to the same as on a connection of its own, and so do
queries one after the other; in a transaction of the caller they add nothing to its commands. -/
theorem borrowed_sessions_agree :
    (∀ (query : Query) (server : Server), server.refusals.begin = none →
      server.refusals.commit = none → ∀ begin commit rollback,
        (query.runOn (.owned none) server).Agrees
          (query.runOn .borrowed (server.withTransaction begin commit rollback))) ∧
    (∀ steps : List Step, (∀ step ∈ steps, step.Granted) →
      List.Forall₂ (fun own lent => own.2.Agrees lent.2) (Step.runAll false steps).1
        (Step.runAll false (steps.map Step.lend)).1) ∧
    ∀ scenario : Scenario, (∀ step ∈ scenario.steps, step.connection = .borrowed) →
      scenario.log = scenario.head ++ (scenario.steps.flatMap fun step => step.run.log) ++
        scenario.tail ∧
      ∀ step ∈ scenario.steps, ∀ event ∈ step.run.log, event.isStatement = true := by
  refine ⟨fun query server => query.runOn_agrees, ?_, ?_⟩
  · intro steps granted
    have lent : ∀ step ∈ steps.map Step.lend, step.leavesRollback false = false := by
      intro step member
      obtain ⟨own, _, rfl⟩ := List.mem_map.mp member
      exact Step.leavesRollback_of_lent rfl
    rw [Step.runAll_of_none fun step member => Step.leavesRollback_of_granted (granted step member),
      Step.runAll_of_none lent, List.map_map, List.forall₂_map_left_iff, List.forall₂_map_right_iff,
      List.forall₂_same]
    exact fun step member => Step.agrees_lend (granted step member)
  · intro scenario lent
    exact ⟨Scenario.log_of_none fun step member => Step.leavesRollback_of_lent (lent step member),
      fun step member => Step.isStatement_of_lent (lent step member)⟩

/-- An insertion that is refused, as is its rollback, on a connection of its own. -/
def fullInsertion : Step :=
  ⟨.post { relation := ⟨"app", "rows"⟩ },
    { refusals := { execute := some "full", rollback := some "gone" } }, .owned none⟩

def soleDeletion : Step :=
  ⟨.delete { relation := ⟨"app", "rows"⟩, id := some (.int64 7) }, { affected := 1 }, .owned none⟩

/-- The deletion runs in the transaction of the caller although the insertion before it has
failed. -/
theorem agreement_of_deletion :
    fullInsertion.run.Agrees fullInsertion.lend.run ∧
    List.Forall₂ (fun own lent => own.2.Agrees lent.2)
      (Step.runAll false [fullInsertion, soleDeletion]).1
      (Step.runAll false [fullInsertion.lend, soleDeletion.lend]).1 ∧
    (Scenario.mk [fullInsertion.lend, soleDeletion.lend] (some .commit)).log =
      [.begin, .prepare "INSERT INTO app.rows DEFAULT VALUES RETURNING *", .execute [],
        .prepare "DELETE FROM app.rows WHERE TRUE AND app.rows.id = $1",
        .execute [some [55]], .commit] := by
  obtain ⟨single, several, lent⟩ := borrowed_sessions_agree
  have granted : ∀ step ∈ [fullInsertion, soleDeletion], step.Granted := by
    simp only [List.forall_mem_cons]
    exact ⟨⟨rfl, rfl, rfl⟩, ⟨rfl, rfl, rfl⟩, fun _ member => nomatch member⟩
  have borrowed : ∀ step ∈ [fullInsertion.lend, soleDeletion.lend],
      step.connection = .borrowed := by
    simp only [List.forall_mem_cons]
    exact ⟨rfl, rfl, fun _ member => nomatch member⟩
  refine ⟨single _ _ rfl rfl none none (some "gone"), several _ granted, ?_⟩
  rw [(lent (Scenario.mk _ (some .commit)) borrowed).1]
  rfl

end RelationQuery
