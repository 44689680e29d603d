import SqlGateway.Proofs.Driver.Calls
import SqlGateway.Session.Operations

/-
  This file shows what the operations of a session keep that
  send statements: their progress is that of the statements
  sent, and of taking a connection and fetching rows.  The
  catalog operations and the execution of a statement do not
  change the session.

  Key definitions include:
    * `Settings.unset`
    * `Progress.Carries`
    * `Session.IsUse`

  Main declarations:
    * `Session.listDatabases_keeps`
    * `Session.listTables_keeps`
    * `Session.describeTable_keeps`
    * `Session.executeQuery_keeps`
    * `Session.switchInPlace_keeps`
    * `Session.run_executeQuery`
-/

namespace SqlGateway

------------------------------------------------------------
-- Statements and What Goes with Them
------------------------------------------------------------

/- The settings of an empty environment. -/
def Settings.unset : Settings where
  queryMode := .safe
  transport := "stdio"
  httpHost := "127.0.0.1"
  httpPort := 8000
  poolMaxSize := 10
  odbcDriver := "ODBC Driver 18 for SQL Server"
  logLevel := "INFO"

@[simp]
theorem Value.displayText_text (s : String) :
    (Value.text s).displayText = s := by
  simp [displayText, display]

/- A statement that points a connection at a database. -/
def Session.IsUse (statement : String) : Prop :=
  ∃ database : String, useStatement database = .ok statement

/-
  A progress allows to send the statements of a kind, each
  with the values it goes with, to take a connection for
  them, and to fetch their rows.  The statements that point
  a connection at a database are of that kind.
-/
structure Progress.Carries
    (progress : Progress)
    (kind : String → List Value → Prop) : Prop where
  acquire :
    ∀ engine pool, progress.Admits (.acquire engine pool)
  execute :
    ∀ statement parameters,
      kind statement (parameters.getD []) →
        progress.Admits (.execute statement parameters)
  fetchAll : progress.Admits .fetchAll
  use :
    ∀ statement, Session.IsUse statement → kind statement []

namespace Session

open Act (Keeps)

variable {inv : Session → Prop}
variable {progress : Progress}
variable {kind : String → List Value → Prop}

theorem requireConnected_keeps :
    Keeps inv progress requireConnected := by
  unfold requireConnected
  refine .state_bind fun session _ => ?_
  exact .ite (.pure _) (.fail _)

theorem poolNumber_keeps :
    Keeps inv progress poolNumber := by
  unfold poolNumber
  refine .state_bind fun session _ => ?_
  cases session.pool with
  | some pool => exact .pure pool
  | none => exact .fail _

/- A connection is pointed at a database by a statement. -/
theorem repoint_keeps
    (hCarries : progress.Carries kind) :
    Keeps inv progress repoint := by
  unfold repoint
  refine .state_bind fun session _ => .ite ?_ (.pure _)
  refine .ofExcept_bind fun statement hStatement => ?_
  have hKind := hCarries.use statement ⟨_, hStatement⟩
  refine .discard (Driver.execute_keeps ?_)
  exact hCarries.execute statement _ hKind

theorem takeConnection_keeps
    (hCarries : progress.Carries kind) :
    Keeps inv progress takeConnection := by
  unfold takeConnection
  refine .state_bind fun session _ => ?_
  refine .bind poolNumber_keeps fun pool => ?_
  refine .bind ?_ fun _ => repoint_keeps hCarries
  exact Driver.acquire_keeps (hCarries.acquire _ pool)

/- Each engine is sent the parameters that are given. -/
theorem getD_sentParameters
    (engine : Engine)
    (parameters : List Value) :
    (sentParameters engine parameters).getD [] =
      parameters := by
  cases engine with
  | sqlServer => rfl
  | postgres =>
      cases parameters with
      | nil => rfl
      | cons value values => rfl

theorem fetch_keeps
    {statement : String}
    {parameters : List Value}
    (hCarries : progress.Carries kind)
    (hKind : kind statement parameters) :
    Keeps inv progress (fetch statement parameters) := by
  unfold fetch
  refine .state_bind fun session _ => ?_
  refine .bind (takeConnection_keeps hCarries) fun _ => ?_
  refine .bind (Driver.execute_keeps ?_) fun reply => ?_
  · apply hCarries.execute
    rw [getD_sentParameters]
    exact hKind
  · cases session.engine with
    | postgres =>
        exact Driver.fetchAll_keeps hCarries.fetchAll
    | sqlServer =>
        refine .bind (.discard (.ofExcept _)) fun _ => ?_
        exact Driver.fetchAll_keeps hCarries.fetchAll

------------------------------------------------------------
-- Operations
------------------------------------------------------------

/- An operation on the catalog sends one statement, with
   values that go with it, and reads the rows. -/
theorem catalog_keeps
    {α : Type}
    {wrap : Session → Failure → Failure}
    {statement : Session → String}
    {parameters : Session → List Value}
    {read : List Fields → Except Failure α}
    (hCarries : progress.Carries kind)
    (hKind : ∀ session, inv session →
      kind (statement session) (parameters session)) :
    Keeps inv progress (do
      requireConnected
      let session ← Act.state
      let rows ← Act.wrapping (wrap session)
        (fetch (statement session) (parameters session))
      Act.ofExcept (read rows)) := by
  refine .bind requireConnected_keeps fun _ => ?_
  refine .state_bind fun session hInv => ?_
  refine .bind (.wrapping ?_) fun rows => .ofExcept _
  exact fetch_keeps hCarries (hKind session hInv)

theorem listDatabases_keeps
    (hCarries : progress.Carries kind)
    (hKind : ∀ session, inv session →
      kind (CatalogQuery.listDatabases session.engine) []) :
    Keeps inv progress listDatabases :=
  catalog_keeps hCarries hKind

theorem listTables_keeps
    (hCarries : progress.Carries kind)
    (hKind : ∀ session, inv session →
      kind (CatalogQuery.listTables session.engine) []) :
    Keeps inv progress listTables :=
  catalog_keeps hCarries hKind

/- Describing a table sends one statement, whatever the
   names, which go with it as values. -/
theorem describeTable_keeps
    {table : String}
    {schema? : Option String}
    (hCarries : progress.Carries kind)
    (hKind : ∀ session, inv session →
      kind (CatalogQuery.describeTable session.engine)
        (CatalogQuery.describeParameters
          (schemaFor session.engine schema?) table
          session.engine)) :
    Keeps inv progress (describeTable table schema?) :=
  catalog_keeps hCarries hKind

theorem resultOf_keeps
    {engine : Engine}
    {reply : Reply}
    (hCarries : progress.Carries kind) :
    Keeps inv progress (resultOf engine reply) := by
  unfold resultOf
  cases reply.columns with
  | none => exact .pure _
  | some columns =>
      refine .bind ?_ fun rows => .pure _
      exact Driver.fetchAll_keeps hCarries.fetchAll

theorem sendStatement_keeps
    {engine : Engine}
    {statement : String}
    (hCarries : progress.Carries kind)
    (hKind : kind statement []) :
    Keeps inv progress
      (sendStatement engine statement) := by
  unfold sendStatement
  refine .bind (takeConnection_keeps hCarries) fun _ => ?_
  refine .bind (Driver.execute_keeps ?_) fun reply => ?_
  · apply hCarries.execute
    rw [getD_sentParameters]
    exact hKind
  · exact resultOf_keeps hCarries

theorem executeQuery_keeps
    {sql : String}
    {limit : Value}
    (hCarries : progress.Carries kind)
    (hKind : ∀ session, inv session → ∀ statement,
      cappedStatement session.engine sql limit =
          .ok statement →
        kind statement []) :
    Keeps inv progress (executeQuery sql limit) := by
  unfold executeQuery
  refine .bind requireConnected_keeps fun _ => ?_
  refine .state_bind fun session hInv => ?_
  refine .ofExcept_bind fun statement hCapped => ?_
  have hSend :
      Keeps inv progress
        (sendStatement session.engine statement) :=
    sendStatement_keeps hCarries
      (hKind session hInv statement hCapped)
  exact .ite (.bind (.log _ _) fun _ => .wrapping hSend)
    (.wrapping hSend)

theorem sendOnly_keeps
    {engine : Engine}
    {statement : String}
    (hCarries : progress.Carries kind)
    (hKind : kind statement []) :
    Keeps inv progress (sendOnly engine statement) := by
  unfold sendOnly
  refine .bind poolNumber_keeps fun pool => ?_
  refine .bind ?_ fun _ => .discard (Driver.execute_keeps ?_)
  · exact Driver.acquire_keeps (hCarries.acquire _ pool)
  · exact hCarries.execute statement _ hKind

/- Switching in place sends one statement, and changes what
   the session says of its database. -/
theorem switchInPlace_keeps
    {database : String}
    (hCarries : progress.Carries kind)
    (hSwitched : ∀ session, inv session →
      inv { session with
        database := .text database
        switched := true }) :
    Keeps inv progress (switchInPlace database) := by
  unfold switchInPlace
  refine .state_bind fun session _ => ?_
  refine .ofExcept_bind fun statement hStatement => ?_
  have hKind :=
    hCarries.use statement ⟨database, hStatement⟩
  refine .bind (.wrapping (sendOnly_keeps hCarries hKind))
    fun _ => ?_
  exact .bind (.update hSwitched) fun _ => .log _ _

------------------------------------------------------------
-- Open Sessions
------------------------------------------------------------

theorem run_requireConnected_bind
    {α : Type}
    {s : Session}
    (hConnected : s.connected = true)
    (next : Unit → Act Session α)
    (w : World) :
    (requireConnected >>= next).run s w =
      (next ()).run s w := by
  have hOpen : requireConnected.run s w = ⟨.ok (), s, w⟩ := by
    simp [requireConnected, hConnected]
  rw [Act.run_bind_of_ok (by rw [hOpen]), hOpen]

theorem run_requireConnected_bind_of_closed
    {α : Type}
    {s : Session}
    (hConnected : s.connected = false)
    (next : Unit → Act Session α)
    (w : World) :
    (requireConnected >>= next).run s w =
      ⟨.error .notConnected, s, w⟩ := by
  have hClosed :
      requireConnected.run s w =
        ⟨.error .notConnected, s, w⟩ := by
    simp [requireConnected, hConnected]
  rw [Act.run_bind_of_error (by rw [hClosed]), hClosed]

/- The pool that a session has is the one it goes on
   with. -/
theorem run_poolNumber_bind
    {α : Type}
    {s : Session}
    {pool : Nat}
    (hPool : s.pool = some pool)
    (next : Nat → Act Session α)
    (w : World) :
    (poolNumber >>= next).run s w = (next pool).run s w := by
  have hNumber : poolNumber.run s w = ⟨.ok pool, s, w⟩ := by
    simp [poolNumber, hPool]
  rw [Act.run_bind_of_ok (by rw [hNumber]), hNumber]

theorem run_poolNumber_bind_of_none
    {α : Type}
    {s : Session}
    (hPool : s.pool = none)
    (next : Nat → Act Session α)
    (w : World) :
    (poolNumber >>= next).run s w =
      ⟨.error .noPool, s, w⟩ := by
  have hNumber :
      poolNumber.run s w = ⟨.error .noPool, s, w⟩ := by
    simp [poolNumber, hPool]
  rw [Act.run_bind_of_error (by rw [hNumber]), hNumber]

/- A statement that cannot be capped is not sent. -/
theorem run_executeQuery_of_error
    {s : Session}
    {sql : String}
    {limit : Value}
    {e : Failure}
    (hConnected : s.connected = true)
    (hCapped : cappedStatement s.engine sql limit = .error e)
    (w : World) :
    (executeQuery sql limit).run s w = ⟨.error e, s, w⟩ := by
  unfold executeQuery
  rw [run_requireConnected_bind hConnected,
    Act.run_state_bind]
  simp only [hCapped, Act.run_ofExcept_error_bind]

/- A statement that is not refused is sent as it is capped,
   which may be logged. -/
theorem run_executeQuery
    {s : Session}
    {sql statement : String}
    {limit : Value}
    (hConnected : s.connected = true)
    (hCapped :
      cappedStatement s.engine sql limit = .ok statement)
    (w : World) :
    ∃ logs : List LogRecord,
      (executeQuery sql limit).run s w =
        (Act.wrapping (.operationFailed .executeQuery)
          (sendStatement s.engine statement)).run s
            { w with logs } := by
  unfold executeQuery
  rw [run_requireConnected_bind hConnected,
    Act.run_state_bind]
  simp only [hCapped, Act.run_ofExcept_ok_bind]
  by_cases hAlike : statement = sql
  · rw [if_neg (by simpa using hAlike)]
    exact ⟨w.logs, rfl⟩
  · rw [if_pos (by simpa using hAlike), Act.run_log_bind]
    exact ⟨_, rfl⟩

end Session

end SqlGateway
