import SqlGateway.Connection.AttributeString
import SqlGateway.Connection.KeywordString
import SqlGateway.Session.Basic
import SqlGateway.Session.Statements

/-
  This file defines how a session is opened: a pool is made,
  a statement is tried, and the pool is closed again if that
  fails.

  Key definitions include:
    * `Session.makePool`
    * `Session.tryOrRelease`
    * `Session.connect`
-/

namespace SqlGateway

namespace Session

/- The seconds until opening is given up. -/
def connectTimeout : Nat := 30

/- The seconds until a request is given up. -/
def requestTimeout : Nat := 30

/- What a PostgreSQL pool is made with. -/
def postgresPoolOptions
    (maxSize : Int) : PostgresPoolOptions where
  minSize := 1
  maxSize
  opensAtOnce := false
  autocommit := true
  rowsByName := true
  checksConnections := true
  timeout := requestTimeout

/- What an ODBC pool is made with. -/
def odbcPoolOptions (maxSize : Int) : OdbcPoolOptions where
  minSize := 1
  maxSize
  autocommit := true
  timeout := connectTimeout
  statementTimeout := requestTimeout

/-
  Make a pool for a database.  A PostgreSQL pool that cannot
  be made is reported as it is, an ODBC pool as a failure to
  open the session.
-/
def makePool
    (engine : Engine)
    (config : ConnectionConfig)
    (database : Value) : Act Session Nat := do
  let session ← Act.state
  let maxSize := session.settings.poolMaxSize
  match engine with
  | .postgres =>
      let connectionString ←
        Act.ofDriver (.makePool .postgres)
          (KeywordString.sessionString config database)
      Driver.createPostgresPool connectionString
        (postgresPoolOptions maxSize)
  | .sqlServer =>
      let connectionString :=
        AttributeString.sessionString
          session.settings.odbcDriver config database
      Act.wrapping (.openingFailed .sqlServer)
        (Driver.createOdbcPool connectionString
          (odbcPoolOptions maxSize))

/- Try a new pool with a statement. -/
def tryPool
    (engine : Engine)
    (pool : Nat) : Act Session Unit := do
  match engine with
  | .postgres =>
      Driver.openPool pool true connectTimeout
      Driver.acquire engine pool
      discard (Driver.execute CatalogQuery.probe none)
  | .sqlServer =>
      Driver.acquire engine pool
      discard (Driver.execute CatalogQuery.probe (some []))

/- Try a new pool, and close it before a failure is
   reported. -/
def tryOrRelease
    (engine : Engine)
    (pool : Nat) : Act Session Unit :=
  Act.rescue (tryPool engine pool) fun e => do
    Driver.releasePool engine pool
    Act.fail (.openingFailed engine e)

/- What is logged when a session is open. -/
def connectedText
    (engine : Engine)
    (config : ConnectionConfig)
    (database : Value) : String :=
  let login :=
    match engine, config.windowsAuth with
    | .postgres, _ => ""
    | .sqlServer, true => ", auth=integrated"
    | .sqlServer, false => ", auth=sql"
  "Connected to " ++ engine.title ++ " at " ++
    config.server.displayText ++ " (database=" ++
    database.displayText ++ login ++ ")"

/- Open the session.  On failure it stays as it was. -/
def connect
    (config : ConnectionConfig) : Act Session Unit := do
  let session ← Act.state
  let engine := session.engine
  let database := config.databaseFor engine
  let pool ← makePool engine config database
  tryOrRelease engine pool
  Act.update fun session =>
    session.opened pool database config
  Act.log .info (connectedText engine config database)

end Session

end SqlGateway
