import SqlGateway.Failure.Message
import SqlGateway.Proofs.Session.ResultSet

/-
  This file shows that a statement comes to the same with
  either engine: the failure of the first of its calls that
  fails, or a result that the reply alone decides.

  Key definitions include:
    * `Session.Ready`
    * `Reply.failure?`
    * `QueryResult.Normalised`
    * `Session.Follows`

  Main declarations:
    * `Fields.name_mem_of_mem_ofColumns`
    * `Session.run_executeQuery_of_ready`
    * `Session.engines_answer_alike`
-/

namespace SqlGateway

------------------------------------------------------------
-- Names of a Row
------------------------------------------------------------

namespace Fields

theorem name_of_mem_put
    {fields : Fields}
    {name : String}
    {v : Value}
    {f : String × Value}
    (hMem : f ∈ put fields name v) :
    f.1 = name ∨ f ∈ fields := by
  induction fields with
  | nil =>
      left
      rw [List.mem_singleton.mp hMem]
  | cons field fields ih =>
      rcases field with ⟨other, w⟩
      rw [put] at hMem
      split at hMem
      · rename_i hTaken
        rcases List.mem_cons.mp hMem with rfl | hRest
        · left
          exact beq_iff_eq.mp hTaken
        · right
          exact List.mem_cons_of_mem _ hRest
      · rcases List.mem_cons.mp hMem with rfl | hRest
        · right
          exact List.mem_cons_self
        · rcases ih hRest with hName | hOld
          · left
            exact hName
          · right
            exact List.mem_cons_of_mem _ hOld

/- Setting values one after the other brings in none but
   theirs. -/
theorem name_of_mem_putAll
    {fields more : Fields}
    {f : String × Value}
    (hMem : f ∈ putAll fields more) :
    f.1 ∈ more.map Prod.fst ∨ f ∈ fields := by
  induction more generalizing fields with
  | nil =>
      right
      exact hMem
  | cons field more ih =>
      rw [List.map_cons]
      have hStep :
          f ∈ putAll (put fields field.1 field.2) more :=
        hMem
      rcases ih hStep with hName | hPut
      · left
        exact List.mem_cons_of_mem _ hName
      · rcases name_of_mem_put hPut with hName | hOld
        · left
          rw [hName]
          exact List.mem_cons_self
        · right
          exact hOld

/- The names of a row are among those of the columns. -/
theorem name_mem_of_mem_ofColumns
    {names : List String}
    {values : List Value}
    {f : String × Value}
    (hMem : f ∈ ofColumns names values) :
    f.1 ∈ names := by
  rcases name_of_mem_putAll hMem with hName | hNone
  · rcases List.mem_map.mp hName with
      ⟨pair, hPair, hFirst⟩
    rw [← hFirst]
    exact (List.of_mem_zip hPair).1
  · cases hNone

end Fields

------------------------------------------------------------
-- Replies
------------------------------------------------------------

namespace Reply

/- The failure that a statement meets once it is sent: its
   own, or that of fetching the rows if it has any. -/
def failure? (reply : Reply) : Option Failure :=
  reply.error.or
    (if reply.columns.isSome then reply.fetchError else none)

/- The result that a reply decides, failures apart. -/
def result (reply : Reply) : QueryResult :=
  match reply.columns with
  | none =>
      { affectedRows :=
          if 0 ≤ reply.rowCount then
            some reply.rowCount
          else
            none }
  | some columns => .ofResultSet columns reply.rows

end Reply

/-
  A result is normalised.  Without a result set it is empty
  and tells the number of affected rows if that is known;
  with one it tells none, has a row for each row of the set,
  and the names in its rows are names of columns.
-/
structure QueryResult.Normalised
    (r : QueryResult)
    (reply : Reply) : Prop where
  without :
    reply.columns = none →
      r.columns = [] ∧ r.rows = [] ∧ r.rowCount = 0 ∧
        r.affectedRows =
          if 0 ≤ reply.rowCount then
            some reply.rowCount
          else
            none
  withSet :
    ∀ columns, reply.columns = some columns →
      r.columns = columns ∧ r.affectedRows = none ∧
        r.rowCount = r.rows.length ∧
        r.rows = reply.rows.map (Fields.ofColumns columns) ∧
        ∀ row ∈ r.rows, ∀ f ∈ row, f.1 ∈ r.columns

/- What a reply decides is normalised. -/
theorem Reply.normalised_result
    (reply : Reply) :
    reply.result.Normalised reply := by
  constructor
  · intro hNone
    unfold result
    rw [hNone]
    exact ⟨rfl, rfl, rfl, rfl⟩
  · intro columns hSome
    unfold result
    rw [hSome]
    refine ⟨rfl, rfl, ?_, rfl, ?_⟩
    · simp [QueryResult.ofResultSet]
    · intro row hRow f hField
      rcases List.mem_map.mp hRow with ⟨values, -, rfl⟩
      exact Fields.name_mem_of_mem_ofColumns hField

namespace Session

------------------------------------------------------------
-- Statements of an Open Session
------------------------------------------------------------

/- A session with an engine is open on a pool and was not
   switched in place. -/
structure Ready
    (s : Session)
    (engine : Engine)
    (pool : Nat) : Prop where
  engine_eq : s.engine = engine
  connected : s.connected = true
  pool_eq : s.pool = some pool
  unswitched : s.switched = false

variable {s : Session}
variable {w : World}
variable {engine : Engine}
variable {pool : Nat}

theorem run_takeConnection_of_ready
    (hReady : s.Ready engine pool) :
    takeConnection.run s w =
      (Driver.acquire engine pool).run s w := by
  have hTaken :
      takeConnection.run s w =
        (Driver.acquire engine pool >>= fun _ =>
          repoint).run s w := by
    simp only [takeConnection, Act.run_state_bind]
    rw [run_poolNumber_bind hReady.pool_eq,
      hReady.engine_eq]
  rw [hTaken]
  cases hAcquire : w.script.acquireError pool with
  | some e =>
      have hError :
          ((Driver.acquire engine pool).run s w).result =
            .error e := by
        rw [Driver.run_acquire, hAcquire]
      rw [Act.run_bind_of_error hError, ← hError]
  | none =>
      have hOut :
          (Driver.acquire engine pool).run s w =
            ⟨.ok (), s,
              w.emitted (.acquire engine pool)⟩ := by
        rw [Driver.run_acquire, hAcquire]
      rw [Act.run_bind_of_ok (by rw [hOut]), hOut]
      simp [repoint, hReady.unswitched]

/- The result of a reply, read on either engine. -/
theorem result_resultOf
    (engine : Engine)
    (reply : Reply)
    (s : Session)
    (w : World) :
    ((resultOf engine reply).run s w).result =
      match reply.columns, reply.fetchError with
      | some _, some e => .error e
      | _, _ => .ok reply.result := by
  unfold resultOf Reply.result
  cases hColumns : reply.columns with
  | none => rfl
  | some columns =>
      cases hFetch : reply.fetchError with
      | some e =>
          have hError :
              ((Driver.fetchAll engine reply).run s
                  w).result =
                .error e := by
            simp [Driver.fetchAll, hFetch]
          simp only []
          rw [Act.run_bind_of_error hError]
      | none =>
          have hRows :
              ((Driver.fetchAll engine reply).run s
                  w).result =
                .ok
                  (reply.rows.map
                    (Fields.ofColumns columns)) := by
            rw [Driver.run_fetchAll hColumns hFetch]
          simp only []
          rw [Act.run_bind_of_ok hRows]
          simp [QueryResult.ofResultSet]

/- What a statement comes to: the first failure on its way,
   or the result of its reply. -/
theorem result_sendStatement_of_ready
    (hReady : s.Ready engine pool)
    (statement : String) :
    ((sendStatement engine statement).run s w).result =
      match (w.script.acquireError pool).or
          w.script.reply.failure? with
      | some e => .error e
      | none => .ok w.script.reply.result := by
  unfold sendStatement
  have hTaken :
      takeConnection.run s w =
        (Driver.acquire engine pool).run s w :=
    run_takeConnection_of_ready hReady
  cases hAcquire : w.script.acquireError pool with
  | some e =>
      rw [Driver.run_acquire, hAcquire] at hTaken
      rw [Act.run_bind_of_error (by rw [hTaken])]
      rfl
  | none =>
      rw [Driver.run_acquire, hAcquire] at hTaken
      rw [Act.run_bind_of_ok (by rw [hTaken]), hTaken]
      have hSent :=
        Driver.run_execute statement
          (sentParameters engine []) s
          (w.emitted (.acquire engine pool))
      rw [World.emitted_script] at hSent
      unfold Reply.failure?
      cases hError : w.script.reply.error with
      | some e =>
          rw [hError] at hSent
          rw [Act.run_bind_of_error (by rw [hSent])]
          rfl
      | none =>
          rw [hError] at hSent
          rw [Act.run_bind_of_ok (by rw [hSent]),
            result_resultOf]
          cases w.script.reply.columns with
          | none => rfl
          | some columns =>
              cases w.script.reply.fetchError with
              | none => rfl
              | some e => rfl

theorem run_executeQuery_of_ready
    (hReady : s.Ready engine pool)
    (sql : String)
    (limit : Int) :
    ((executeQuery sql (.int limit)).run s w).result =
      match (w.script.acquireError pool).or
          w.script.reply.failure? with
      | some e =>
          .error
            (e.wrappedBy (.operationFailed .executeQuery))
      | none => .ok w.script.reply.result := by
  rcases exists_cappedStatement s.engine sql limit with
    ⟨statement, hCapped⟩
  rcases run_executeQuery hReady.connected hCapped w with
    ⟨logs, hOut⟩
  rw [hOut, Act.run_wrapping, hReady.engine_eq,
    result_sendStatement_of_ready hReady]
  cases (w.script.acquireError pool).or
      w.script.reply.failure? with
  | some e => rfl
  | none => rfl

------------------------------------------------------------
-- Two Engines
------------------------------------------------------------

/-
  The outcome of a statement follows from what its drivers
  do.  It is a normalised result if no call fails, and else
  an error of the query that the first failure caused.  A
  failure that ends the run is no such error and passes as
  it is.
-/
def Follows
    (first? : Option Failure)
    (reply : Reply) : Except Failure QueryResult → Prop
  | .ok r => first? = none ∧ r.Normalised reply
  | .error failure =>
      ∃ e, first? = some e ∧
        (e.endsRun = true → failure = e) ∧
        (e.endsRun = false →
          failure.kindName = "QueryError" ∧
            failure.message =
              "Query execution failed: " ++ e.message ∧
            failure.cause? = some e)

/- An open session gives the outcome that the reply stands
   for. -/
theorem follows_executeQuery_of_ready
    (hReady : s.Ready engine pool)
    (sql : String)
    (limit : Int) :
    Follows
      ((w.script.acquireError pool).or
        w.script.reply.failure?)
      w.script.reply
      ((executeQuery sql (.int limit)).run s w).result := by
  rw [run_executeQuery_of_ready hReady]
  cases (w.script.acquireError pool).or
      w.script.reply.failure? with
  | none => exact ⟨rfl, w.script.reply.normalised_result⟩
  | some e =>
      refine ⟨e, rfl, ?_, ?_⟩
      · exact Failure.wrappedBy_of_endsRun _
      · intro hEnds
        rw [Failure.wrappedBy_of_not_endsRun _ hEnds]
        exact ⟨rfl, rfl, rfl⟩

/-
  Two open sessions, one with each engine, are given the
  same statement, and their drivers behave alike: taking a
  connection fails or not, and the reply is the same.  Then
  the outcome is the same, and follows from what the drivers
  do.
-/
theorem engines_answer_alike
    {t : Session}
    {v : World}
    {other : Nat}
    (hPostgres : s.Ready .postgres pool)
    (hServer : t.Ready .sqlServer other)
    (hAcquire :
      w.script.acquireError pool =
        v.script.acquireError other)
    (hReply : w.script.reply = v.script.reply)
    (sql : String)
    (limit : Int) :
    ∃ outcome : Except Failure QueryResult,
      ((executeQuery sql (.int limit)).run s w).result =
          outcome ∧
        ((executeQuery sql (.int limit)).run t v).result =
          outcome ∧
        Follows
          ((w.script.acquireError pool).or
            w.script.reply.failure?)
          w.script.reply outcome := by
  refine
    ⟨_, rfl, ?_,
      follows_executeQuery_of_ready hPostgres sql limit⟩
  rw [run_executeQuery_of_ready hPostgres,
    run_executeQuery_of_ready hServer, hAcquire, hReply]

/- A session that is open with an engine. -/
def openWith (engine : Engine) : Session :=
  { openOnPool with engine }

theorem openWith_ready (engine : Engine) :
    (openWith engine).Ready engine 1 :=
  ⟨rfl, rfl, rfl, rfl⟩

/- The join has one outcome with both engines. -/
theorem join_answered_alike :
    let sql := "SELECT * FROM a JOIN b ON a.id = b.a_id"
    ((openWith .postgres).Ready .postgres 1 ∧
        (openWith .sqlServer).Ready .sqlServer 1 ∧
        joinWorld.script.acquireError 1 =
          joinWorld.script.acquireError 1 ∧
        joinWorld.script.reply = joinWorld.script.reply) ∧
      ∃ outcome : Except Failure QueryResult,
        ((executeQuery sql (.int 100)).run
              (openWith .postgres) joinWorld).result =
            outcome ∧
          ((executeQuery sql (.int 100)).run
              (openWith .sqlServer) joinWorld).result =
            outcome ∧
          Follows
            ((joinWorld.script.acquireError 1).or
              joinWorld.script.reply.failure?)
            joinWorld.script.reply outcome :=
  ⟨⟨openWith_ready .postgres, openWith_ready .sqlServer, rfl,
      rfl⟩,
    engines_answer_alike (openWith_ready .postgres)
      (openWith_ready .sqlServer) rfl rfl _ 100⟩

end Session

end SqlGateway
