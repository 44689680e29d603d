import SqlGateway.Proofs.Session.Blames
import SqlGateway.Proofs.Session.Coherent

/-
  This file shows that no operation meets a session whose
  parts disagree: a pool is there whenever one is used, the
  configuration whenever a session is reopened, and the
  statement that points a connection at the database can
  always be built.  A failure that tells of anything else
  was raised by a driver.

  Key definitions include:
    * `Failure.tellsDisagreement`
    * `Accounted` and `Met`
    * `Session.Equipped`

  Main declarations:
    * `Session.Equipped.takeConnection_met`
    * `Command.onSession_accounted`
    * `Session.Reachable.parts_agree`
-/

namespace SqlGateway

------------------------------------------------------------
-- Failures That Tell of a Disagreement
------------------------------------------------------------

namespace Failure

/-
  The failures that come of parts of a session which
  disagree: there is no configuration to reopen it with; or
  there is no pool; or the database that it reports, once it
  was switched, has no statement that points there.  The
  last two are met inside an operation, and are wrapped.
-/
def tellsDisagreement : Failure → Bool
  | noStoredConfig => true
  | noPool => true
  | operationFailed _ noPool => true
  | operationFailed _ (invalidIdentifier _) => true
  | _ => false

theorem not_tellsDisagreement_of_endsRun
    {e : Failure}
    (hEnds : e.endsRun = true) :
    e.tellsDisagreement = false := by
  cases e with
  | foreign origin kind details => rfl
  | _ => cases hEnds

end Failure

/- A failure that tells of a disagreement is one that a
   driver raised, or was made of one. -/
def Accounted
    (raised : List Raised)
    (e : Failure) : Prop :=
  e.tellsDisagreement = true →
    ∃ r ∈ raised, r.failure = e ∨ e.cause? = some r.failure

/- The failures met inside an operation: those that a driver
   raised, and that a reply has no rows. -/
inductive Met : List Raised → Failure → Prop where
  | raised
      {call : DriverCall}
      (e : Failure) :
      Met [⟨call, e⟩] e
  | noColumns : Met [] .noColumns

theorem Met.ofThrown
    {calls : List DriverCall}
    {raised : List Raised}
    {e : Failure}
    (hThrown : Thrown calls raised e) :
    Met raised e := by
  cases hThrown with
  | mk hCall e => exact .raised e

namespace Accounted

variable {raised : List Raised}
variable {e : Failure}

theorem ofPlain (hPlain : e.tellsDisagreement = false) :
    Accounted raised e := by
  intro hTells
  rw [hPlain] at hTells
  cases hTells

theorem ofThrown
    {calls : List DriverCall}
    (hThrown : Thrown calls raised e) :
    Accounted raised e := by
  cases hThrown with
  | mk hCall e =>
      exact fun _ => ⟨_, List.mem_singleton_self _, .inl rfl⟩

theorem wrapped
    {wrap : Failure → Failure}
    (hWrap : ∀ e, (wrap e).tellsDisagreement = false) :
    Accounted raised (e.wrappedBy wrap) := by
  unfold Failure.wrappedBy
  split
  · next hEnds =>
      exact ofPlain
        (Failure.not_tellsDisagreement_of_endsRun hEnds)
  · exact ofPlain (hWrap e)

theorem ofMet
    {operation : Operation}
    (hMet : Met raised e) :
    Accounted raised
      (e.wrappedBy (.operationFailed operation)) := by
  cases hMet with
  | noColumns => exact ofPlain rfl
  | raised e =>
      intro _
      refine ⟨_, List.mem_singleton_self _, ?_⟩
      unfold Failure.wrappedBy
      split
      · exact .inl rfl
      · exact .inr rfl

end Accounted

------------------------------------------------------------
-- Reading the Catalog
------------------------------------------------------------

/- A result other than a failure that tells of a
   disagreement. -/
def Plain
    {α : Type}
    (result : Except Failure α) : Prop :=
  ∀ e, result = .error e → e.tellsDisagreement = false

namespace Plain

variable {α β : Type}

theorem ok (a : α) : Plain (.ok a) :=
  fun _ hError => nomatch hError

theorem bind
    {result : Except Failure α}
    {next : α → Except Failure β}
    (hResult : Plain result)
    (hNext : ∀ a, Plain (next a)) :
    Plain (result >>= next) := by
  cases result with
  | ok a => exact hNext a
  | error e =>
      intro e' hError
      cases hError
      exact hResult e rfl

theorem mapM
    {f : α → Except Failure β}
    (hEach : ∀ a, Plain (f a))
    (as : List α) :
    Plain (as.mapM f) := by
  induction as with
  | nil => exact ok []
  | cons a as ih =>
      rw [List.mapM_cons]
      refine bind (hEach a) fun b => ?_
      exact bind ih fun bs => ok (b :: bs)

theorem column
    (row : Fields)
    (name : String) :
    Plain (column row name) := by
  intro e hError
  unfold SqlGateway.column at hError
  split at hError
  · cases hError
  · cases hError
    rfl

theorem kindOfValue (v : Value) :
    Plain (TableKind.ofValue v) := by
  intro e hError
  unfold TableKind.ofValue at hError
  split at hError
  · cases hError
  · cases hError
  · cases hError
    rfl

theorem tableOfRow (row : Fields) :
    Plain (tableOfRow row) := by
  unfold SqlGateway.tableOfRow
  refine bind (column row _) fun schema => ?_
  refine bind (column row _) fun name => ?_
  refine bind (column row _) fun kind => ?_
  exact bind (kindOfValue kind) fun _ => ok _

theorem columnOfRow (row : Fields) :
    Plain (columnOfRow row) := by
  unfold SqlGateway.columnOfRow
  refine bind (column row _) fun name => ?_
  refine bind (column row _) fun type => ?_
  refine bind (column row _) fun nullable => ?_
  refine bind (column row _) fun isPrimaryKey => ?_
  refine bind (column row _) fun maxLength => ?_
  refine bind (column row _) fun precision => ?_
  refine bind (column row _) fun scale => ?_
  refine bind (column row _) fun defaultValue => ?_
  exact bind (column row _) fun comment => ok _

theorem cappedStatement
    (engine : Engine)
    (sql : String)
    (limit : Value) :
    Plain (Session.cappedStatement engine sql limit) := by
  unfold Session.cappedStatement
  cases Statement.rowCap? engine sql.toList with
  | none => exact ok sql
  | some cap =>
      refine bind ?_ fun n => ok _
      intro e hError
      cases hWhole : limit.whole with
      | ok n =>
          rw [hWhole] at hError
          cases hError
      | error fault =>
          rw [hWhole] at hError
          cases hError
          rfl

end Plain

namespace Session

open Act (Blames)

variable {s : Session}

------------------------------------------------------------
-- Equipped Sessions
------------------------------------------------------------

/- A session has all that its operations need. -/
structure Equipped (s : Session) : Prop where
  pool : ∃ pool, s.pool = some pool
  use :
    s.switched = true →
      ∃ statement,
        useStatement s.database.displayText = .ok statement

theorem Coherent.equipped
    (hCoherent : s.Coherent)
    (hConnected : s.connected = true) :
    s.Equipped := by
  constructor
  · apply Option.isSome_iff_exists.mp
    rw [hCoherent.pool_isSome, hConnected]
  · intro hSwitched
    rcases hCoherent.switched hSwitched with
      ⟨-, -, database, hDatabase, hName⟩
    rw [hDatabase, Value.displayText_text]
    exact (isUsable_iff database).mpr hName

theorem execute_met
    {statement : String}
    {parameters : Option (List Value)} :
    Blames Met
      (Driver.execute statement parameters :
        Act Session Reply) :=
  (Driver.execute_blames (List.mem_singleton_self _)).mono
    fun _ _ => .ofThrown

theorem acquire_met
    {engine : Engine}
    {pool : Nat} :
    Blames Met
      (Driver.acquire engine pool : Act Session Unit) :=
  (Driver.acquire_blames (List.mem_singleton_self _)).mono
    fun _ _ => .ofThrown

theorem fetchAll_met
    {engine : Engine}
    {reply : Reply} :
    Blames Met
      (Driver.fetchAll engine reply :
        Act Session (List Fields)) :=
  (Driver.fetchAll_blames (List.mem_singleton_self _)).mono
    fun _ _ => .ofThrown

namespace Equipped

/- A connection can always be pointed at the database. -/
theorem repoint_met
    (hEquipped : s.Equipped)
    (w : World) :
    (repoint.run s w).Blamed Met w := by
  unfold repoint
  rw [Act.run_state_bind]
  cases hSwitched : s.switched with
  | false => exact Blames.pure () s w
  | true =>
      rcases hEquipped.use hSwitched with ⟨statement, hUse⟩
      rw [if_pos rfl, hUse, Act.run_ofExcept_ok_bind]
      exact execute_met.discard s w

theorem takeConnection_met
    (hEquipped : s.Equipped)
    (w : World) :
    (takeConnection.run s w).Blamed Met w := by
  rcases hEquipped.pool with ⟨pool, hPool⟩
  unfold takeConnection
  rw [Act.run_state_bind, run_poolNumber_bind hPool]
  refine (acquire_met s w).bind fun _ => ?_
  have hAcquire :
      Act.Keeps (· = s) Progress.poolless
        (Driver.acquire s.engine pool) :=
    Driver.acquire_keeps (Progress.poolless_admits rfl rfl)
  rw [(hAcquire s w rfl).1]
  exact hEquipped.repoint_met _

theorem fetch_met
    (hEquipped : s.Equipped)
    (statement : String)
    (parameters : List Value)
    (w : World) :
    ((fetch statement parameters).run s w).Blamed Met w := by
  unfold fetch
  rw [Act.run_state_bind]
  refine (hEquipped.takeConnection_met w).bind fun _ => ?_
  refine Blames.bind execute_met (fun reply => ?_) _ _
  cases s.engine with
  | postgres => exact fetchAll_met
  | sqlServer =>
      refine .bind (.discard (.ofExcept fun e hError => ?_))
        fun _ => fetchAll_met
      unfold Driver.columnsOf at hError
      cases hColumns : reply.columns with
      | some columns =>
          rw [hColumns] at hError
          cases hError
      | none =>
          rw [hColumns] at hError
          cases hError
          exact .noColumns

theorem sendStatement_met
    (hEquipped : s.Equipped)
    (engine : Engine)
    (statement : String)
    (w : World) :
    ((sendStatement engine statement).run s w).Blamed
      Met w := by
  unfold sendStatement
  refine (hEquipped.takeConnection_met w).bind fun _ => ?_
  refine Blames.bind execute_met (fun reply => ?_) _ _
  unfold resultOf
  cases reply.columns with
  | none => exact .pure _
  | some columns =>
      exact .bind fetchAll_met fun rows => .pure _

theorem sendOnly_met
    (hEquipped : s.Equipped)
    (engine : Engine)
    (statement : String)
    (w : World) :
    ((sendOnly engine statement).run s w).Blamed Met w := by
  rcases hEquipped.pool with ⟨pool, hPool⟩
  unfold sendOnly
  rw [run_poolNumber_bind hPool]
  refine (acquire_met s w).bind fun _ => ?_
  exact execute_met.discard _ _

------------------------------------------------------------
-- Operations of an Equipped Session
------------------------------------------------------------

theorem catalog_accounted
    {α : Type}
    {operation : Operation}
    {statement : String}
    {parameters : List Value}
    {read : List Fields → Except Failure α}
    (hEquipped : s.Equipped)
    (hRead : ∀ rows, Plain (read rows))
    (w : World) :
    ((do
      let rows ← Act.wrapping (.operationFailed operation)
        (fetch statement parameters)
      Act.ofExcept (read rows) :
        Act Session α).run s w).Blamed Accounted w := by
  have hFetch := hEquipped.fetch_met statement parameters w
  refine (hFetch.wrapping fun _ _ => .ofMet).bind ?_
  intro rows
  exact Blames.ofExcept
    (fun e hError => .ofPlain (hRead rows e hError)) _ _

theorem executeQuery_accounted
    (hEquipped : s.Equipped)
    (hConnected : s.connected = true)
    (sql : String)
    (limit : Value)
    (w : World) :
    ((executeQuery sql limit).run s w).Blamed
      Accounted w := by
  cases hCapped : cappedStatement s.engine sql limit with
  | error e =>
      rw [run_executeQuery_of_error hConnected hCapped w]
      have hPlain :=
        Plain.cappedStatement s.engine sql limit e hCapped
      exact Blames.fail (.ofPlain hPlain) s w
  | ok statement =>
      rcases run_executeQuery hConnected hCapped w with
        ⟨logs, hRun⟩
      rw [hRun]
      have hSend :=
        hEquipped.sendStatement_met s.engine statement
          { w with logs }
      exact hSend.wrapping fun _ _ => .ofMet

theorem switchInPlace_accounted
    (hEquipped : s.Equipped)
    (database : String)
    (w : World) :
    ((switchInPlace database).run s w).Blamed
      Accounted w := by
  unfold switchInPlace
  rw [Act.run_state_bind]
  cases hUse : useStatement database with
  | error e =>
      have hPlain : e.tellsDisagreement = false := by
        unfold useStatement at hUse
        split at hUse
        · cases hUse
        · cases hUse
          rfl
      exact Blames.fail (.ofPlain hPlain) s w
  | ok statement =>
      rw [Act.run_ofExcept_ok_bind]
      have hSend := hEquipped.sendOnly_met s.engine statement w
      refine (hSend.wrapping fun _ _ => .ofMet).bind ?_
      intro _
      exact Blames.bind (.update _) (fun _ => .log _ _) _ _

end Equipped

------------------------------------------------------------
-- Opening and Closing
------------------------------------------------------------

theorem makePool_accounted
    (engine : Engine)
    (config : ConnectionConfig)
    (database : Value) :
    Blames Accounted (makePool engine config database) := by
  unfold makePool
  refine .state_bind fun session => ?_
  cases engine with
  | postgres =>
      have hCalls : DriverCall.makePool .postgres ∈
          [DriverCall.makePool .postgres] :=
        List.mem_singleton_self _
      refine Blames.mono (.bind (.ofDriver (.mk hCalls))
        fun _ => Driver.createPostgresPool_blames hCalls) ?_
      exact fun _ _ => .ofThrown
  | sqlServer =>
      refine .wrapping (Driver.createOdbcPool_blames
        (List.mem_singleton_self _)) ?_
      exact fun _ _ _ => .wrapped fun _ => rfl

theorem tryOrRelease_accounted
    (engine : Engine)
    (pool : Nat) :
    Blames Accounted (tryOrRelease engine pool) := by
  refine .rescue (tryPool_blames engine pool) ?_ ?_
  · intro raised e hThrown hEnds
    exact .ofThrown hThrown
  · intro raised e hThrown hEnds s w
    rcases releaseThenFail_raises engine pool
        (.openingFailed engine e) s w with
      ⟨more, e', hError, hRaised, hCase⟩
    refine ⟨more, e', hError, hRaised, ?_⟩
    rcases hCase with ⟨-, rfl⟩ | hClosing
    · exact .ofPlain rfl
    · cases hClosing with
      | mk hCall e' =>
          exact fun _ =>
            ⟨_, List.mem_append_right _
              (List.mem_singleton_self _), .inl rfl⟩

theorem connect_accounted (config : ConnectionConfig) :
    Blames Accounted (connect config) := by
  unfold connect
  refine .state_bind fun session => ?_
  refine .bind (makePool_accounted _ _ _) fun pool => ?_
  refine .bind (tryOrRelease_accounted _ pool) fun _ => ?_
  exact .bind (.update _) fun _ => .log _ _

theorem disconnect_accounted :
    Blames Accounted disconnect := by
  unfold disconnect
  refine .state_bind fun session => ?_
  refine .bind (.update _) fun _ => ?_
  cases session.pool with
  | none => exact .pure _
  | some pool =>
      have hRelease :
          Blames (Thrown releaseCalls) (do
            Driver.releasePool session.engine pool
            Act.log .info
              (session.engine.title ++
                " connection pool closed") :
            Act Session Unit) :=
        .bind (Driver.releasePool_blames (by decide)
          (by decide)) fun _ => .log _ _
      exact .wrapping hRelease fun _ _ _ =>
        .wrapped fun _ => rfl

theorem reopen_accounted
    (hSound : s.Sound)
    (hConnected : s.connected = true)
    (database : String)
    (w : World) :
    ((reopen database).run s w).Blamed Accounted w := by
  have hConfig := hSound.config_isSome
  rw [hConnected] at hConfig
  rcases Option.isSome_iff_exists.mp hConfig with
    ⟨config, hConfig⟩
  rw [run_reopen hConfig]
  refine Blames.bind disconnect_accounted (fun _ => ?_) s w
  exact .bind (connect_accounted _) fun _ => .log _ _

end Session

------------------------------------------------------------
-- Commands
------------------------------------------------------------

namespace Command

open Act (Blames)

variable {s : Session}

theorem onSession_accounted_of_connected
    (command : Command)
    (hCoherent : s.Coherent)
    (hSound : s.Sound)
    (hConnected : s.connected = true)
    (w : World) :
    (command.onSession.run s w).Blamed Accounted w := by
  have hEquipped := hCoherent.equipped hConnected
  have hOpen := fun {α} (next : Unit → Act Session α) =>
    Session.run_requireConnected_bind hConnected next w
  cases command with
  | connect config =>
      exact Session.connect_accounted config s w
  | disconnect => exact Session.disconnect_accounted s w
  | switchDatabase database =>
      simp only [onSession]
      rw [Session.run_switchDatabase database hConnected w]
      cases s.engine with
      | sqlServer =>
          exact hEquipped.switchInPlace_accounted database w
      | postgres =>
          exact Session.reopen_accounted hSound hConnected
            database w
  | listDatabases =>
      refine Outcome.Blamed.discard ?_
      rw [Session.listDatabases, hOpen, Act.run_state_bind]
      exact hEquipped.catalog_accounted
        (.mapM fun row => .column row _) w
  | listTables =>
      refine Outcome.Blamed.discard ?_
      rw [Session.listTables, hOpen, Act.run_state_bind]
      exact hEquipped.catalog_accounted (.mapM .tableOfRow) w
  | describeTable table schema? =>
      refine Outcome.Blamed.discard ?_
      rw [Session.describeTable, hOpen, Act.run_state_bind]
      exact hEquipped.catalog_accounted (.mapM .columnOfRow) w
  | executeQuery sql limit =>
      refine Outcome.Blamed.discard ?_
      exact hEquipped.executeQuery_accounted hConnected sql
        limit w

theorem onSession_accounted
    (command : Command)
    (hCoherent : s.Coherent)
    (hSound : s.Sound)
    (w : World) :
    (command.onSession.run s w).Blamed Accounted w := by
  cases hConnected : s.connected with
  | true =>
      exact command.onSession_accounted_of_connected
        hCoherent hSound hConnected w
  | false =>
      cases hNeeds : command.needsSession with
      | true =>
          rw [onSession_of_closed hNeeds hConnected w]
          exact Blames.fail (.ofPlain rfl) s w
      | false =>
          cases command with
          | connect config =>
              exact Session.connect_accounted config s w
          | disconnect =>
              exact Session.disconnect_accounted s w
          | _ => cases hNeeds

end Command

namespace Session

/-
  Whatever was done with a session and however the drivers
  behaved: its parts agree.  So whatever is done next, a
  failure that tells of a missing pool, a missing
  configuration, or a database that no connection can be
  pointed at is a failure that a driver raised meanwhile, or
  was made of one; and a connection that is taken from a
  switched session is pointed by a statement that is there.
-/
theorem Reachable.parts_agree
    {s : Session}
    (hReachable : s.Reachable) :
    s.Coherent ∧
      (s.switched = true →
        ∃ statement,
          useStatement s.database.displayText =
            .ok statement) ∧
      ∀ (command : Command) (w : World) (e : Failure),
        let out := command.onSession.run s w
        out.result = .error e →
          e.tellsDisagreement = true →
            ∃ raised : List Raised,
              out.world.raised = w.raised ++ raised ∧
                ∃ r ∈ raised,
                  r.failure = e ∨
                    e.cause? = some r.failure := by
  have hShape := hReachable.shape
  have hCoherent := hShape.coherent
  refine ⟨hCoherent, ?_, ?_⟩
  · intro hSwitched
    have hConnected := (hCoherent.switched hSwitched).2.1
    exact (hCoherent.equipped hConnected).use hSwitched
  · intro command w e out hError hTells
    have hAccounted :=
      command.onSession_accounted hCoherent hShape.sound w
    rcases hAccounted.exists_of_error hError with
      ⟨raised, hRaised, hBlame⟩
    exact ⟨raised, hRaised, hBlame hTells⟩

/- A session with SQL Server that was opened and pointed at
   another database. -/
def pointedOnce : Session :=
  let opened :=
    ((Command.connect
      { engine := "mssql", server := .text "db" }).onSession.run
        (fresh .sqlServer .unset) {}).state
  ((Command.switchDatabase "[Sales]").onSession.run
    opened {}).state

/- The parts of a session that was switched agree, and a
   query of it fails for want of a pool only because a
   driver raised just that. -/
theorem pointedOnce_parts_agree :
    let raises : World :=
      { script := { acquireError := fun _ => some .noPool } }
    let query :=
      Command.listTables.onSession.run pointedOnce raises
    let e : Failure := .operationFailed .listTables .noPool
    pointedOnce.Reachable ∧
      pointedOnce.switched = true ∧ pointedOnce.Coherent ∧
      (∃ statement,
        useStatement pointedOnce.database.displayText =
          .ok statement) ∧
      query.result = .error e ∧
        ∃ raised : List Raised,
          query.world.raised = raises.raised ++ raised ∧
            ∃ r ∈ raised,
              r.failure = e ∨ e.cause? = some r.failure := by
  intro raises query e
  have hCreated : (fresh .sqlServer .unset).Reachable :=
    .created (rfl : create "mssql" .unset = _)
  have hReachable : pointedOnce.Reachable :=
    (hCreated.after _ _).after _ _
  have hSwitched : pointedOnce.switched = true := by
    decide +kernel
  have hQuery : query.result = .error e := rfl
  rcases hReachable.parts_agree with
    ⟨hCoherent, hUse, hFailures⟩
  exact
    ⟨hReachable, hSwitched, hCoherent, hUse hSwitched, hQuery,
      hFailures .listTables raises _ hQuery rfl⟩

end Session

end SqlGateway
