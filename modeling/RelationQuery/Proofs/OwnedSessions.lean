import RelationQuery.Proofs.StatementRuns
import RelationQuery.Session.Scenario

/-!
# The protocol of a session of its own

A query on a connection of its own takes the connection first and gives it back last, sends its
statement in a transaction only, and ends the transaction once: with a commit behind the statement
if all of it has succeeded, with a rollback behind what was sent of it otherwise. A query that has
nothing to send leaves no log. A rollback that is under way from a session before may arrive ahead of
the transaction.
-/

namespace RelationQuery

namespace Session

/-! ## Parts of a log -/

def beforeBegin (log : List Event) : List Event := log.takeWhile (· != .begin)

def afterBegin (log : List Event) : List Event := (log.dropWhile (· != .begin)).tail

def arrival (underWay : Bool) : List Event := if underWay then [.rollback] else []

/-- The log of a connection that is taken and given back, with `inner` in the transaction. -/
def takenLog (underWay : Bool) (inner : List Event) : List Event :=
  .acquire :: (arrival underWay ++ .begin :: (inner ++ [.release]))

section TakenLog

variable (underWay : Bool) (inner : List Event)

theorem arrive_taken :
    arrive underWay (.acquire :: .begin :: (inner ++ [.release])) = takenLog underWay inner := by
  cases underWay <;> rfl

theorem beforeBegin_takenLog :
    beforeBegin (takenLog underWay inner) = .acquire :: arrival underWay := by
  cases underWay <;> rfl

theorem afterBegin_takenLog : afterBegin (takenLog underWay inner) = inner ++ [.release] := by
  cases underWay <;> rfl

theorem takenLog_eq :
    takenLog underWay inner =
      (.acquire :: (arrival underWay ++ .begin :: inner)) ++ [.release] := by
  simp [takenLog]

theorem commit_mem_takenLog : .commit ∈ takenLog underWay inner ↔ .commit ∈ inner := by
  cases underWay <;> simp [takenLog, arrival]

variable {underWay inner}

theorem statement_mem_takenLog {event : Event} (sent : event.isStatement = true)
    (member : event ∈ takenLog underWay inner) :
    event ∈ inner ∧ event ∉ beforeBegin (takenLog underWay inner) := by
  rw [beforeBegin_takenLog]
  cases event with
  | prepare sql => cases underWay <;> simpa [takenLog, arrival] using member
  | execute cells => cases underWay <;> simpa [takenLog, arrival] using member
  | _ => cases sent

theorem release_once (unreleased : .release ∉ inner) :
    ∃ front, takenLog underWay inner = front ++ [.release] ∧ .release ∉ front := by
  refine ⟨_, takenLog_eq underWay inner, ?_⟩
  cases underWay <;> simpa [arrival] using unreleased

end TakenLog

/-! ## The ways to end -/

def Server.Begins (server : Server) (refusal : Option String) : Prop :=
  refusal = none ∧ server.refusals.begin = none

/-- What happens between the beginning of a transaction and the return of its connection, and what
comes of it. -/
inductive Server.Transacts (server : Server) (compiled : Compiled) (fetch : Fetch) :
    List Event → Except Cause Output → Prop where
  | unbegun {message : String} (refused : server.refusals.begin = some message) :
      Transacts server compiled fetch [] (.error (.database (.server message)))
  | rolledBack (begun : server.refusals.begin = none) {log : List Event} {cause : Cause}
      (failed : server.Executes compiled fetch ⟨log, .error cause⟩) :
      Transacts server compiled fetch (log ++ [.rollback]) (.error cause)
  | uncommitted (begun : server.refusals.begin = none) {log : List Event} {output : Output}
      (done : server.Executes compiled fetch ⟨log, .ok output⟩) {message : String}
      (refused : server.refusals.commit = some message) :
      Transacts server compiled fetch (log ++ [.commit]) (.error (.database (.server message)))
  | committed (begun : server.refusals.begin = none) {log : List Event} {output : Output}
      (done : server.Executes compiled fetch ⟨log, .ok output⟩)
      (obeyed : server.refusals.commit = none) :
      Transacts server compiled fetch (log ++ [.commit]) (.ok output)

theorem Server.transacts (server : Server) (compiled : Compiled) (fetch : Fetch) :
    ∃ inner, server.Transacts compiled fetch inner (transaction server compiled fetch).result ∧
      (transaction server compiled fetch).log = .begin :: inner := by
  unfold transaction
  cases begun : server.refusals.begin with
  | some message => exact ⟨[], .unbegun begun, rfl⟩
  | none =>
      have ended := server.executes compiled fetch
      generalize server.execute compiled fetch = run at ended ⊢
      obtain ⟨log, result⟩ := run
      cases result with
      | error cause => exact ⟨_, .rolledBack begun ended, rfl⟩
      | ok output =>
          unfold conclude
          cases obeyed : server.refusals.commit with
          | some message => exact ⟨_, .uncommitted begun ended obeyed, rfl⟩
          | none => exact ⟨_, .committed begun ended obeyed, rfl⟩

namespace Server.Transacts

variable {server : Server} {compiled : Compiled} {fetch : Fetch} {inner : List Event}
  {result : Except Cause Output} (transacted : server.Transacts compiled fetch inner result)

include transacted

/-- Nothing but the statement and one ending stands in the transaction. -/
theorem mem_inner {event : Event} (member : event ∈ inner) :
    event.isStatement = true ∨ event = .commit ∨ event = .rollback := by
  have parts {log : List Event} {ending : Event}
      (statements : ∀ event ∈ log, event.isStatement = true) (member : event ∈ log ++ [ending]) :
      event.isStatement = true ∨ event = ending := by
    rcases List.mem_append.mp member with sent | last
    · exact .inl (statements event sent)
    · exact .inr (List.mem_singleton.mp last)
  cases transacted with
  | unbegun _ => cases member
  | rolledBack _ failed => exact (parts failed.isStatement member).imp_right .inr
  | uncommitted _ done _ => exact (parts done.isStatement member).imp_right .inl
  | committed _ done _ => exact (parts done.isStatement member).imp_right .inl

/-- Without a transaction nothing is sent. -/
theorem begun_of_mem {event : Event} (member : event ∈ inner) : server.refusals.begin = none := by
  cases transacted with
  | unbegun _ => cases member
  | rolledBack begun _ => exact begun
  | uncommitted begun _ _ => exact begun
  | committed begun _ _ => exact begun

theorem commit_mem_iff :
    .commit ∈ inner ↔ server.refusals.begin = none ∧ server.Succeeds compiled fetch := by
  cases transacted with
  | unbegun refused => simp [refused]
  | rolledBack _ failed =>
      have unsent := failed.not_mem .commit rfl
      have unsuccessful := failed.not_succeeds
      simp [unsent, unsuccessful]
  | uncommitted begun done _ => simp [begun, done.succeeds]
  | committed begun done _ => simp [begun, done.succeeds]

theorem release_not_mem : .release ∉ inner := by
  intro member
  rcases transacted.mem_inner member with sent | same | same <;> contradiction

/-- A transaction that does not begin holds nothing. -/
theorem of_unbegun {message : String} (refused : server.refusals.begin = some message) :
    inner = [] ∧ result = .error (.database (.server message)) := by
  cases transacted with
  | unbegun same =>
      rw [refused] at same
      cases same
      exact ⟨rfl, rfl⟩
  | rolledBack begun _ => simp [refused] at begun
  | uncommitted begun _ _ => simp [refused] at begun
  | committed begun _ _ => simp [refused] at begun

/-- Ahead of a commit stands the statement, prepared and executed with its values. -/
theorem of_commit (committed : .commit ∈ inner) :
    ∃ cells output, server.Binds compiled cells ∧ server.Yields fetch output ∧
      inner = [.prepare compiled.sql, .execute cells, .commit] ∧
      (server.refusals.commit = none → result = .ok output) ∧
      ∀ message, server.refusals.commit = some message →
        result = .error (.database (.server message)) := by
  cases transacted with
  | unbegun _ => cases committed
  | rolledBack _ failed => simp [failed.not_mem .commit rfl] at committed
  | uncommitted _ done refused =>
      obtain ⟨cells, bound, read, rfl⟩ := done.log_of_ok
      refine ⟨cells, _, bound, read, rfl, fun obeyed => ?_, fun message same => ?_⟩
      · simp [refused] at obeyed
      · rw [refused] at same
        cases same
        rfl
  | committed _ done obeyed =>
      obtain ⟨cells, bound, read, rfl⟩ := done.log_of_ok
      refine ⟨cells, _, bound, read, rfl, fun _ => rfl, fun message same => ?_⟩
      simp [obeyed] at same

/-- Where there is no commit the rollback stands behind what the statement has sent, and the cause
is that of the statement. -/
theorem of_not_commit (begun : server.refusals.begin = none) (uncommitted : .commit ∉ inner) :
    ∃ log cause, server.Executes compiled fetch ⟨log, .error cause⟩ ∧
      inner = log ++ [.rollback] ∧ result = .error cause := by
  cases transacted with
  | unbegun refused => simp [begun] at refused
  | rolledBack _ failed => exact ⟨_, _, failed, rfl, rfl⟩
  | uncommitted _ _ _ => simp at uncommitted
  | committed _ _ _ => simp at uncommitted

theorem not_both : ¬ (.commit ∈ inner ∧ .rollback ∈ inner) := by
  cases transacted with
  | unbegun _ => simp
  | rolledBack _ failed => simp [failed.not_mem .commit rfl]
  | uncommitted _ done _ => simp [done.not_mem .rollback rfl]
  | committed _ done _ => simp [done.not_mem .rollback rfl]

/-- Something is yielded exactly when the commit is obeyed. -/
theorem ok_iff :
    (∃ output, result = .ok output) ↔ .commit ∈ inner ∧ server.refusals.commit = none := by
  cases transacted with
  | unbegun _ => simp
  | rolledBack _ failed => simp [failed.not_mem .commit rfl]
  | uncommitted _ _ refused => simp [refused]
  | committed _ _ obeyed => simp [obeyed]

end Server.Transacts

end Session

/-! ## The protocol -/

open Session (Server Event Run Step beforeBegin afterBegin)

namespace Query

def WritesNothing (query : Query) : Prop := ∃ patch, query = .patch patch ∧ patch.writable = []

def changesRows : Query → Bool
  | .patch _ => true
  | .delete _ => true
  | .post _ => true
  | _ => false

/-- A query that has nothing to send. -/
def Idle (query : Query) : Prop := (∃ cause, query.compile = .error cause) ∨ query.WritesNothing

theorem WritesNothing.compile {query : Query} (nothing : query.WritesNothing) :
    query.compile = .ok none := by
  obtain ⟨patch, rfl, none⟩ := nothing
  change patch.compile = _
  unfold PatchQuery.compile
  rw [none]
  rfl

/-- Only an update compiles to nothing, and only if it has nothing to write. -/
theorem writesNothing_of_compile {query : Query} (made : query.compile = .ok none) :
    query.WritesNothing := by
  cases query with
  | get query =>
      obtain ⟨_, _, same⟩ := map_eq_ok.mp made
      cases same
  | patch query =>
      refine ⟨query, rfl, ?_⟩
      change query.compile = _ at made
      unfold PatchQuery.compile at made
      cases columns : query.writable with
      | nil => rfl
      | cons entry rest =>
          rw [columns] at made
          obtain ⟨predicates, _, made⟩ := bind_eq_ok.mp made
          cases free : query.id.isNone && predicates.isEmpty && !query.allowUnfiltered with
          | true =>
              rw [free] at made
              cases made
          | false =>
              rw [free] at made
              obtain ⟨bindings, _, made⟩ := bind_eq_ok.mp made
              cases made
  | delete query =>
      obtain ⟨_, _, same⟩ := map_eq_ok.mp made
      cases same
  | post query => cases made
  | lastUpdate query =>
      obtain ⟨_, _, same⟩ := map_eq_ok.mp made
      cases same

theorem exists_compiled {query : Query} (busy : ¬ query.Idle) :
    ∃ compiled, query.compile = .ok (some compiled) := by
  cases made : query.compile with
  | error cause => exact absurd (.inl ⟨cause, made⟩) busy
  | ok statement =>
      cases statement with
      | none => exact absurd (.inr (writesNothing_of_compile made)) busy
      | some compiled => exact ⟨compiled, rfl⟩

theorem exists_respond {query : Query} (changes : query.changesRows = true)
    (output : Session.Output) : ∃ response, query.respond output = .ok response := by
  cases output with
  | count n => exact ⟨_, rfl⟩
  | rows rows => cases query <;> first | exact ⟨_, rfl⟩ | cases changes

end Query

/-- What is seen of a query that sends a statement on a connection of its own, ahead of which a
rollback may be under way. -/
structure OwnedProtocol (query : Query) (compiled : Compiled) (refusal : Option String)
    (server : Server) (underWay : Bool) (run : Run Response) : Prop where
  acquires : run.log.head? = some .acquire
  refused : ∀ reason, refusal = some reason →
    run.log = [.acquire] ∧ run.result = .error (.pool reason)
  /-- A connection that is granted is given back once, and last. -/
  releases : refusal = none → ∃ front, run.log = front ++ [.release] ∧ .release ∉ front
  unreleased : refusal ≠ none → .release ∉ run.log
  opens : refusal = none → beforeBegin run.log = .acquire :: Session.arrival underWay
  unbegun : refusal = none → ∀ message, server.refusals.begin = some message →
    afterBegin run.log = [.release] ∧ run.result = .error (.database (.server message))
  /-- No statement is sent but in a transaction that has begun. -/
  begins : ∀ event ∈ run.log, event.isStatement = true →
    server.Begins refusal ∧ event ∉ beforeBegin run.log
  commits : .commit ∈ run.log ↔ server.Begins refusal ∧ server.Succeeds compiled query.fetch
  /-- Between the beginning and a commit the statement is prepared, and executed with its values. -/
  committed : .commit ∈ run.log → ∃ cells output,
    server.Binds compiled cells ∧ server.Yields query.fetch output ∧
      afterBegin run.log = [.prepare compiled.sql, .execute cells, .commit, .release] ∧
      (server.refusals.commit = none → run.result = query.respond output) ∧
      ∀ message, server.refusals.commit = some message →
        run.result = .error (.database (.server message))
  /-- Without a commit there is a rollback behind what the statement has sent. The cause reported
  is that of the statement, whatever comes of the rollback. -/
  rollsBack : server.Begins refusal → .commit ∉ run.log → ∃ log cause,
    server.Executes compiled query.fetch ⟨log, .error cause⟩ ∧
      afterBegin run.log = log ++ [.rollback, .release] ∧ run.result = .error cause
  endsOnce : server.Begins refusal →
    ¬ (.commit ∈ afterBegin run.log ∧ .rollback ∈ afterBegin run.log)
  answers : query.changesRows = true →
    ((∃ response, run.result = .ok response) ↔
      .commit ∈ run.log ∧ server.refusals.commit = none)

structure SessionProtocol (query : Query) (refusal : Option String) (server : Server)
    (underWay : Bool) (run : Run Response) : Prop where
  idle : query.Idle → run.log = []
  sending : ¬ query.Idle → ∃ compiled, query.compile = .ok (some compiled) ∧
    OwnedProtocol query compiled refusal server underWay run

/-! ## Keeping to the protocol -/

section Keeping

variable (query : Query) (compiled : Compiled) (server : Server) (underWay : Bool)

theorem ownedProtocol_refused (reason : String) :
    OwnedProtocol query compiled (some reason) server underWay
      ⟨[.acquire], .error (.pool reason)⟩ where
  acquires := rfl
  refused _ same := by
    cases same
    exact ⟨rfl, rfl⟩
  releases granted := nomatch granted
  unreleased _ := by simp
  opens granted := nomatch granted
  unbegun granted := nomatch granted
  begins := by simp [Event.isStatement]
  commits := by simp [Server.Begins]
  committed member := by simp at member
  rollsBack begun := nomatch begun.1
  endsOnce begun := nomatch begun.1
  answers _ := by simp

theorem ownedProtocol_transacts {inner : List Event} {result : Except Cause Session.Output}
    (transacted : server.Transacts compiled query.fetch inner result) :
    OwnedProtocol query compiled none server underWay
      ⟨Session.takenLog underWay inner, result >>= query.respond⟩ := by
  have commits := Session.commit_mem_takenLog underWay inner
  have behind := Session.afterBegin_takenLog underWay inner
  exact {
    acquires := rfl
    refused := fun _ same => nomatch same
    releases := fun _ => Session.release_once transacted.release_not_mem
    unreleased := fun refused => absurd rfl refused
    opens := fun _ => Session.beforeBegin_takenLog underWay inner
    unbegun := fun _ message refused => by
      obtain ⟨rfl, rfl⟩ := transacted.of_unbegun refused
      exact ⟨behind, rfl⟩
    begins := fun event member sent => by
      obtain ⟨inside, outside⟩ := Session.statement_mem_takenLog sent member
      exact ⟨⟨rfl, transacted.begun_of_mem inside⟩, outside⟩
    commits := by
      rw [commits, transacted.commit_mem_iff]
      exact ⟨fun both => ⟨⟨rfl, both.1⟩, both.2⟩, fun both => ⟨both.1.2, both.2⟩⟩
    committed := fun member => by
      obtain ⟨cells, output, bound, read, rfl, obeyed, refused⟩ :=
        transacted.of_commit (commits.mp member)
      refine ⟨cells, output, bound, read, behind, fun none => ?_, fun message some => ?_⟩
      · rw [obeyed none]
        rfl
      · rw [refused message some]
        rfl
    rollsBack := fun begun uncommitted => by
      obtain ⟨log, cause, failed, rfl, rfl⟩ :=
        transacted.of_not_commit begun.2 (mt commits.mpr uncommitted)
      refine ⟨log, cause, failed, ?_, rfl⟩
      rw [behind, List.append_assoc]
      rfl
    endsOnce := fun _ => by
      rw [behind]
      simpa using transacted.not_both
    answers := fun changes => by
      rw [commits, ← transacted.ok_iff]
      constructor
      · rintro ⟨response, answered⟩
        obtain ⟨output, same, _⟩ := bind_eq_ok.mp answered
        exact ⟨output, same⟩
      · rintro ⟨output, rfl⟩
        exact Query.exists_respond changes output }

end Keeping

/-- A query on a connection of its own keeps to the protocol, also when a rollback is under way. -/
theorem sessionProtocol (query : Query) (refusal : Option String) (server : Server)
    (underWay : Bool) :
    SessionProtocol query refusal server underWay
      ⟨Session.arrive underWay (query.runOn (.owned refusal) server).log,
        (query.runOn (.owned refusal) server).result⟩ := by
  constructor
  · rintro (⟨cause, failed⟩ | nothing)
    · rw [Query.runOn_of_error _ _ failed]
      cases underWay <;> rfl
    · rw [Query.runOn_of_none _ _ nothing.compile]
      cases underWay <;> rfl
  · intro busy
    obtain ⟨compiled, made⟩ := Query.exists_compiled busy
    refine ⟨compiled, made, ?_⟩
    rw [Query.runOn_of_some _ _ made]
    cases refusal with
    | some reason =>
        have log : Session.arrive underWay [.acquire] = [.acquire] := by cases underWay <;> rfl
        change OwnedProtocol query compiled (some reason) server underWay
          ⟨Session.arrive underWay [.acquire], .error (.pool reason)⟩
        rw [log]
        exact ownedProtocol_refused query compiled server underWay reason
    | none =>
        obtain ⟨inner, transacted, log⟩ := server.transacts compiled query.fetch
        change OwnedProtocol query compiled none server underWay
          ⟨Session.arrive underWay
            (.acquire :: (Session.transaction server compiled query.fetch).log ++ [.release]),
            (Session.transaction server compiled query.fetch).result >>= query.respond⟩
        rw [log]
        change OwnedProtocol query compiled none server underWay
          ⟨Session.arrive underWay (.acquire :: .begin :: (inner ++ [.release])), _⟩
        rw [Session.arrive_taken]
        exact ownedProtocol_transacts query compiled server underWay transacted

/-- What is seen of a step among others is its own run, behind a rollback that may be under way. -/
theorem Session.Step.of_mem_runAll {underWay : Bool} {steps : List Step}
    {done : Step × Run Response} (member : done ∈ (Step.runAll underWay steps).1) :
    ∃ underWay, done.2 = ⟨Session.arrive underWay done.1.run.log, done.1.run.result⟩ := by
  induction steps generalizing underWay with
  | nil => cases member
  | cons step rest ih =>
      rcases List.mem_cons.mp member with rfl | later
      · exact ⟨underWay, rfl⟩
      · exact ih later

/-- Every query on a connection of its own keeps to the protocol, run alone or among others. -/
theorem owned_sessions_keep_protocol :
    (∀ (query : Query) (refusal : Option String) (server : Server),
      SessionProtocol query refusal server false (query.runOn (.owned refusal) server)) ∧
    ∀ (underWay : Bool) (steps : List Step), ∀ done ∈ (Step.runAll underWay steps).1,
      ∀ refusal, done.1.connection = .owned refusal →
        ∃ before, SessionProtocol done.1.query refusal done.1.server before done.2 := by
  refine ⟨fun query refusal server => sessionProtocol query refusal server false, ?_⟩
  intro underWay steps done member refusal own
  obtain ⟨before, seen⟩ := Step.of_mem_runAll member
  refine ⟨before, ?_⟩
  rw [seen, Step.run, own]
  exact sessionProtocol done.1.query refusal done.1.server before

def unbegunInsertion : Step :=
  ⟨.post { relation := ⟨"app", "rows"⟩ }, { refusals := { begin := some "down" } }, .owned none⟩

/-- An insertion that is refused, as is its rollback. -/
def refusedInsertion : Step :=
  ⟨.post { relation := ⟨"app", "rows"⟩ },
    { refusals := { execute := some "full", rollback := some "gone" } }, .owned none⟩

/-- A deletion of one row, by an integer of two bytes. -/
def lastingDeletion : Step :=
  ⟨.delete { relation := ⟨"app", "rows"⟩, id := some (.int64 7) },
    { paramTypes := [.scalar .int2], affected := 1 }, .owned none⟩

/-- The rollback of the first transaction arrives ahead of the second, which has one of its own. The
third is committed behind its statement. -/
theorem protocol_of_sessions : ∃ refused lasting,
    (Step.runAll false [unbegunInsertion, refusedInsertion, lastingDeletion]).1.tail =
        [(refusedInsertion, refused), (lastingDeletion, lasting)] ∧
      (∃ before, SessionProtocol refusedInsertion.query none refusedInsertion.server before
        refused) ∧
      refused.log = [.acquire, .rollback, .begin,
        .prepare "INSERT INTO app.rows DEFAULT VALUES RETURNING *", .execute [], .rollback,
        .release] ∧
      refused.result = .error (.database (.server "full")) ∧
      (∃ before, SessionProtocol lastingDeletion.query none lastingDeletion.server before lasting) ∧
      lasting.log = [.acquire, .begin,
        .prepare "DELETE FROM app.rows WHERE TRUE AND app.rows.id = $1", .execute [some [0, 7]],
        .commit, .release] ∧
      lasting.result = .ok (.affected 1) := by
  let refused : Run Response :=
    ⟨Session.arrive true refusedInsertion.run.log, refusedInsertion.run.result⟩
  let lasting : Run Response :=
    ⟨Session.arrive false lastingDeletion.run.log, lastingDeletion.run.result⟩
  let steps := [unbegunInsertion, refusedInsertion, lastingDeletion]
  have second : (refusedInsertion, refused) ∈ (Step.runAll false steps).1 :=
    List.mem_cons_of_mem _ List.mem_cons_self
  have third : (lastingDeletion, lasting) ∈ (Step.runAll false steps).1 :=
    List.mem_cons_of_mem _ (List.mem_cons_of_mem _ List.mem_cons_self)
  refine ⟨refused, lasting, rfl, ?_, rfl, rfl, ?_, rfl, rfl⟩
  · exact owned_sessions_keep_protocol.2 false steps (refusedInsertion, refused) second none rfl
  · exact owned_sessions_keep_protocol.2 false steps (lastingDeletion, lasting) third none rfl

end RelationQuery
