import SqlGateway.Proofs.Driver.Alike
import SqlGateway.Session.Operations

/-
  This file compares the operations of two sessions side by
  side.  The sessions differ at most in the configurations
  that they were opened with and in settings that no session
  looks at; their operations end alike, and call the drivers
  alike.

  Key definitions include:
    * `Likeness`
    * `Session.Alike`

  Main declarations:
    * `Session.connect_alike`
    * `Session.switchDatabase_alike`
    * `Session.executeQuery_alike`
-/

namespace SqlGateway

------------------------------------------------------------
-- What May Differ
------------------------------------------------------------

/- The records of two strings that a PostgreSQL pool is made
   with. -/
def SameMaking
    (Calls : Event → Event → Prop)
    (s s' : String) : Prop :=
  ∀ (pool : Nat) (options : PostgresPoolOptions),
    Calls (.createPostgresPool pool s options)
      (.createPostgresPool pool s' options)

/-
  What may differ between two runs: the calls of drivers and
  the configurations of an engine, each as far as they are
  alike.  `Names` tells the databases that a session may be
  switched to.

  Configurations that are alike are shown alike, and open
  pools by calls that are alike, if PostgreSQL takes their
  strings; and so they do when another database is put in.
-/
structure Likeness where
  Calls : Event → Event → Prop
  Configs :
    Engine → ConnectionConfig → ConnectionConfig → Prop
  Names : String → Prop
  calls_refl : ∀ event, Calls event event
  server :
    ∀ {engine config config'},
      Configs engine config config' →
        config.server = config'.server
  windowsAuth :
    ∀ {engine config config'},
      Configs engine config config' →
        config.windowsAuth = config'.windowsAuth
  database :
    ∀ {engine config config'},
      Configs engine config config' →
        config.databaseFor engine =
          config'.databaseFor engine
  moved :
    ∀ {engine config config' name},
      Configs engine config config' → Names name →
        Configs engine
          { config with database := .text name }
          { config' with database := .text name }
  postgres :
    ∀ {config config'},
      Configs .postgres config config' →
        ResultAlike (SameMaking Calls)
          (KeywordString.sessionString config
            (config.databaseFor .postgres))
          (KeywordString.sessionString config'
            (config'.databaseFor .postgres))
  sqlServer :
    ∀ {config config'} (driver : String)
        (options : OdbcPoolOptions),
      Configs .sqlServer config config' →
        Calls
          (.createOdbcPool
            (AttributeString.sessionString driver config
              (config.databaseFor .sqlServer)) options)
          (.createOdbcPool
            (AttributeString.sessionString driver config'
              (config'.databaseFor .sqlServer)) options)

/-
  Two sessions of an engine that differ at most in their
  configurations, which are alike, and in settings that no
  session looks at.
-/
structure Session.Alike
    (like : Likeness)
    (engine : Engine)
    (s s' : Session) : Prop where
  left : s.engine = engine
  right : s'.engine = engine
  poolMaxSize :
    s.settings.poolMaxSize = s'.settings.poolMaxSize
  odbcDriver :
    s.settings.odbcDriver = s'.settings.odbcDriver
  pool : s.pool = s'.pool
  connected : s.connected = s'.connected
  database : s.database = s'.database
  config : Option.Rel (like.Configs engine) s.config s'.config
  switched : s.switched = s'.switched

/- Two actions that are alike from sessions that are. -/
abbrev Session.ActAlike
    {α : Type}
    (like : Likeness)
    (engine : Engine)
    (act act' : Act Session α) : Prop :=
  Act.Alike like.Calls (Session.Alike like engine) (· = ·)
    act act'

namespace Session

variable {like : Likeness}
variable {engine : Engine}

/- A session is like itself if all configurations are. -/
theorem Alike.refl
    (hRefl : ∀ engine config,
      like.Configs engine config config)
    (session : Session) :
    session.Alike like session.engine session where
  left := rfl
  right := rfl
  poolMaxSize := rfl
  odbcDriver := rfl
  pool := rfl
  connected := rfl
  database := rfl
  config := by
    cases session.config with
    | none => exact .none
    | some config => exact .some (hRefl _ config)
  switched := rfl

------------------------------------------------------------
-- Opening and Closing
------------------------------------------------------------

theorem Alike.closed
    {s s' : Session}
    (hAlike : s.Alike like engine s') :
    s.closed.Alike like engine s'.closed where
  left := hAlike.left
  right := hAlike.right
  poolMaxSize := hAlike.poolMaxSize
  odbcDriver := hAlike.odbcDriver
  pool := rfl
  connected := rfl
  database := rfl
  config := .none
  switched := rfl

/- Sessions stay alike when they are opened with
   configurations that are alike. -/
theorem Alike.opened
    {s s' : Session}
    {config config' : ConnectionConfig}
    (hAlike : s.Alike like engine s')
    (hConfigs : like.Configs engine config config')
    (pool : Nat)
    (database : Value) :
    (s.opened pool database config).Alike like engine
      (s'.opened pool database config') where
  left := hAlike.left
  right := hAlike.right
  poolMaxSize := hAlike.poolMaxSize
  odbcDriver := hAlike.odbcDriver
  pool := rfl
  connected := rfl
  database := rfl
  config := .some hConfigs
  switched := rfl

/- Pools are made alike for configurations that are. -/
theorem makePool_alike
    {config config' : ConnectionConfig}
    (hConfigs : like.Configs engine config config') :
    ActAlike like engine
      (makePool engine config (config.databaseFor engine))
      (makePool engine config'
        (config'.databaseFor engine)) := by
  unfold makePool
  refine .state_bind fun s s' hAlike => ?_
  rw [hAlike.poolMaxSize, hAlike.odbcDriver]
  cases engine with
  | postgres =>
      refine .bind (.ofDriver (like.postgres hConfigs)) ?_
      intro string string' hEvents
      exact Driver.createPostgresPool_alike fun pool =>
        hEvents pool _
  | sqlServer =>
      exact .wrapping (Driver.createOdbcPool_alike
        like.calls_refl (like.sqlServer _ _ hConfigs))

theorem tryPool_alike (pool : Nat) :
    ActAlike like engine (tryPool engine pool)
      (tryPool engine pool) := by
  have hRefl := like.calls_refl
  unfold tryPool
  cases engine with
  | postgres =>
      refine .bind_same
        (Driver.openPool_alike hRefl pool _ _) fun _ => ?_
      refine .bind_same
        (Driver.acquire_alike hRefl _ pool) fun _ => ?_
      exact .discard (Driver.execute_alike hRefl _ _)
  | sqlServer =>
      refine .bind_same
        (Driver.acquire_alike hRefl _ pool) fun _ => ?_
      exact .discard (Driver.execute_alike hRefl _ _)

theorem tryOrRelease_alike (pool : Nat) :
    ActAlike like engine (tryOrRelease engine pool)
      (tryOrRelease engine pool) := by
  unfold tryOrRelease
  refine .rescue (tryPool_alike pool) fun e => ?_
  exact .bind_same
    (Driver.releasePool_alike like.calls_refl _ pool)
    fun _ => .fail _

theorem connectedText_alike
    {config config' : ConnectionConfig}
    (hConfigs : like.Configs engine config config')
    (database : Value) :
    connectedText engine config database =
      connectedText engine config' database := by
  unfold connectedText
  rw [like.server hConfigs, like.windowsAuth hConfigs]

/- Sessions are opened alike with configurations that are
   alike. -/
theorem connect_alike
    {config config' : ConnectionConfig}
    (hConfigs : like.Configs engine config config') :
    ActAlike like engine (connect config)
      (connect config') := by
  unfold connect
  refine .state_bind fun s s' hAlike => ?_
  rw [hAlike.left, hAlike.right]
  refine .bind_same (makePool_alike hConfigs) fun pool => ?_
  refine .bind_same (tryOrRelease_alike pool) fun _ => ?_
  rw [like.database hConfigs,
    connectedText_alike hConfigs]
  refine .bind_same ?_ fun _ => .log _ _
  exact .update fun t t' hBoth =>
    hBoth.opened hConfigs pool _

theorem disconnect_alike :
    ActAlike like engine disconnect disconnect := by
  unfold disconnect
  refine .state_bind fun s s' hAlike => ?_
  rw [hAlike.left, hAlike.right, hAlike.pool]
  refine .bind_same ?_ fun _ => ?_
  · exact .update fun t t' hBoth => hBoth.closed
  · cases s'.pool with
    | none => exact .pure rfl
    | some pool =>
        refine .wrapping (.bind_same ?_ fun _ => .log _ _)
        exact Driver.releasePool_alike like.calls_refl _ pool

------------------------------------------------------------
-- Statements
------------------------------------------------------------

theorem requireConnected_alike :
    ActAlike like engine requireConnected
      requireConnected := by
  unfold requireConnected
  refine .state_bind fun s s' hAlike => ?_
  rw [hAlike.connected]
  exact .ite (.pure rfl) (.fail _)

theorem poolNumber_alike :
    ActAlike like engine poolNumber poolNumber := by
  unfold poolNumber
  refine .state_bind fun s s' hAlike => ?_
  rw [hAlike.pool]
  cases s'.pool with
  | none => exact .fail _
  | some pool => exact .pure rfl

theorem repoint_alike :
    ActAlike like engine repoint repoint := by
  unfold repoint
  refine .state_bind fun s s' hAlike => ?_
  rw [hAlike.switched, hAlike.database]
  refine .ite ?_ (.pure rfl)
  refine .bind_same (.ofExcept_self _) fun statement => ?_
  exact .discard
    (Driver.execute_alike like.calls_refl _ _)

theorem takeConnection_alike :
    ActAlike like engine takeConnection takeConnection := by
  unfold takeConnection
  refine .state_bind fun s s' hAlike => ?_
  rw [hAlike.left, hAlike.right]
  refine .bind_same poolNumber_alike fun pool => ?_
  exact .bind_same
    (Driver.acquire_alike like.calls_refl _ pool)
    fun _ => repoint_alike

theorem fetch_alike
    (statement : String)
    (parameters : List Value) :
    ActAlike like engine (fetch statement parameters)
      (fetch statement parameters) := by
  have hRefl := like.calls_refl
  unfold fetch
  refine .state_bind fun s s' hAlike => ?_
  rw [hAlike.left, hAlike.right]
  refine .bind_same takeConnection_alike fun _ => ?_
  refine .bind_same (Driver.execute_alike hRefl _ _)
    fun reply => ?_
  cases engine with
  | postgres => exact Driver.fetchAll_alike hRefl _ reply
  | sqlServer =>
      refine .bind_same ?_ fun _ =>
        Driver.fetchAll_alike hRefl _ reply
      exact (Act.Alike.ofExcept_self _).discard

------------------------------------------------------------
-- Operations
------------------------------------------------------------

theorem switchInPlace_alike (database : String) :
    ActAlike like engine (switchInPlace database)
      (switchInPlace database) := by
  unfold switchInPlace
  refine .state_bind fun s s' hAlike => ?_
  rw [hAlike.left, hAlike.right]
  refine .bind_same (.ofExcept_self _) fun statement => ?_
  refine .bind_same (.wrapping ?_) fun _ => ?_
  · refine .bind_same poolNumber_alike fun pool => ?_
    exact .bind_same
      (Driver.acquire_alike like.calls_refl _ pool)
      fun _ => .discard
        (Driver.execute_alike like.calls_refl _ _)
  · refine .bind_same ?_ fun _ => .log _ _
    exact .update fun t t' hBoth =>
      { hBoth with
        database := rfl
        switched := rfl }

theorem reopen_alike
    {database : String}
    (hName : like.Names database) :
    ActAlike like engine (reopen database)
      (reopen database) := by
  unfold reopen
  refine .state_bind fun s s' hAlike => ?_
  have hConfig := hAlike.config
  revert hConfig
  generalize s.config = config?, s'.config = config?'
  rintro (hConfigs | _)
  · refine .bind_same disconnect_alike fun _ => ?_
    exact .bind_same
      (connect_alike (like.moved hConfigs hName))
      fun _ => .log _ _
  · exact .fail _

/- Sessions are switched alike in the manner of their
   engine. -/
theorem switchDatabase_alike
    {database : String}
    (hName : like.Names database) :
    ActAlike like engine (switchDatabase database)
      (switchDatabase database) := by
  unfold switchDatabase
  refine .bind_same requireConnected_alike fun _ => ?_
  refine .state_bind fun s s' hAlike => ?_
  rw [hAlike.left, hAlike.right]
  cases engine with
  | sqlServer => exact switchInPlace_alike database
  | postgres => exact reopen_alike hName

/- What a query to the catalog gives is read alike. -/
theorem catalog_alike
    {α : Type}
    (operation : Operation)
    (statement : String)
    (parameters : List Value)
    (read : List Fields → Except Failure α) :
    let query : Act Session α := do
      let rows ← Act.wrapping (.operationFailed operation)
        (fetch statement parameters)
      Act.ofExcept (read rows)
    ActAlike like engine query query := by
  intro query
  exact .bind_same (.wrapping (fetch_alike _ _))
    fun rows => .ofExcept_self _

theorem listDatabases_alike :
    ActAlike like engine listDatabases listDatabases := by
  unfold listDatabases
  refine .bind_same requireConnected_alike fun _ => ?_
  refine .state_bind fun s s' hAlike => ?_
  rw [hAlike.left, hAlike.right]
  exact catalog_alike _ _ _ _

theorem listTables_alike :
    ActAlike like engine listTables listTables := by
  unfold listTables
  refine .bind_same requireConnected_alike fun _ => ?_
  refine .state_bind fun s s' hAlike => ?_
  rw [hAlike.left, hAlike.right]
  exact catalog_alike _ _ _ _

theorem describeTable_alike
    (table : String)
    (schema? : Option String) :
    ActAlike like engine (describeTable table schema?)
      (describeTable table schema?) := by
  unfold describeTable
  refine .bind_same requireConnected_alike fun _ => ?_
  refine .state_bind fun s s' hAlike => ?_
  rw [hAlike.left, hAlike.right]
  exact catalog_alike _ _ _ _

theorem sendStatement_alike (statement : String) :
    ActAlike like engine (sendStatement engine statement)
      (sendStatement engine statement) := by
  have hRefl := like.calls_refl
  unfold sendStatement resultOf
  refine .bind_same takeConnection_alike fun _ => ?_
  refine .bind_same (Driver.execute_alike hRefl _ _)
    fun reply => ?_
  cases reply.columns with
  | none => exact .pure rfl
  | some columns =>
      exact .bind_same (Driver.fetchAll_alike hRefl _ reply)
        fun rows => .pure rfl

theorem executeQuery_alike
    (sql : String)
    (limit : Value) :
    ActAlike like engine (executeQuery sql limit)
      (executeQuery sql limit) := by
  unfold executeQuery
  refine .bind_same requireConnected_alike fun _ => ?_
  refine .state_bind fun s s' hAlike => ?_
  rw [hAlike.left, hAlike.right]
  refine .bind_same (.ofExcept_self _) fun statement => ?_
  refine .ite (.bind_same (.log _ _) fun _ => ?_) ?_
  · exact .wrapping (sendStatement_alike statement)
  · exact .wrapping (sendStatement_alike statement)

end Session

end SqlGateway
