import RelationQuery.Query.Run

/-!
# Scenarios

Queries that run one after the other, each on a connection of its own or on the client of the
caller, whose transaction, if there is one, embraces them all. A connection on which a transaction
has failed to begin is given back with a rollback under way; the server receives it ahead of the
next command.
-/

namespace RelationQuery.Session

def Event.isCommand : Event → Bool
  | .acquire => false
  | .release => false
  | _ => true

/-- A log in which a rollback that is under way arrives ahead of the first command. -/
def arrive (underWay : Bool) (log : List Event) : List Event :=
  if underWay && log.any Event.isCommand then
    log.takeWhile (!·.isCommand) ++ .rollback :: log.dropWhile (!·.isCommand)
  else log

structure Step where
  query : Query
  server : Server
  connection : Connection

namespace Step

def run (step : Step) : Run Response := step.query.runOn step.connection step.server

/-- Whether a rollback is under way behind a step: one that the step has sent, or one from before it
that no command has followed. -/
def leavesRollback (step : Step) (underWay : Bool) : Bool :=
  if step.run.log.any Event.isCommand then
    step.run.log.contains .begin && step.server.refusals.begin.isSome
  else underWay

/-- Runs steps one after the other, and says whether a rollback is under way in the end. -/
def runAll : Bool → List Step → List (Step × Run Response) × Bool
  | underWay, [] => ([], underWay)
  | underWay, step :: rest =>
      let later := runAll (step.leavesRollback underWay) rest
      ((step, ⟨arrive underWay step.run.log, step.run.result⟩) :: later.1, later.2)

end Step

inductive Ending where
  | commit
  | rollback
  deriving DecidableEq, Repr

def Ending.event : Ending → Event
  | .commit => .commit
  | .rollback => .rollback

/-- Steps, and the end of the transaction of the caller if they run in one. -/
structure Scenario where
  steps : List Step
  ending : Option Ending

namespace Scenario

def head (scenario : Scenario) : List Event :=
  if scenario.ending.isSome then [.begin] else []

/-- The logs and results of the steps; the transaction of the caller begins in the first log. -/
def results (scenario : Scenario) : List (Step × Run Response) :=
  match (Step.runAll false scenario.steps).1 with
  | [] => []
  | (step, run) :: rest => (step, { run with log := scenario.head ++ run.log }) :: rest

/-- The log of the end. It holds the beginning as well when there are no steps. -/
def closing (scenario : Scenario) : Option (List Event) :=
  scenario.ending.map fun ending =>
    arrive (Step.runAll false scenario.steps).2
      ((if scenario.steps.isEmpty then scenario.head else []) ++ [ending.event])

end Scenario

end RelationQuery.Session
