import SqlGateway.Identifier
import SqlGateway.QueryResult
import SqlGateway.Session.Connect
import SqlGateway.Statement.RowLimit

/-
  This file defines the operations of an open session:
  switching the database, reading the catalog, and executing
  a statement.

  Key definitions include:
    * `Session.switchDatabase`
    * `Session.listDatabases`
    * `Session.listTables`
    * `Session.describeTable`
    * `Session.executeQuery`
-/

namespace SqlGateway

namespace Session

------------------------------------------------------------
-- Connections
------------------------------------------------------------

/- The statement that points a connection at a database. -/
def useStatement
    (database : String) : Except Failure String :=
  match Identifier.escape? .sqlServer database.toList with
  | some name => .ok ("USE " ++ String.ofList name)
  | none => .error (.invalidIdentifier database)

/-
  Point the connection at the database of the session, if
  the session was switched: a switch holds only for the
  connection that it ran on.
-/
def repoint : Act Session Unit := do
  let session ← Act.state
  if session.switched then
    let statement ← Act.ofExcept
      (useStatement session.database.displayText)
    discard (Driver.execute statement (some []))

/- Take a connection that is pointed at the database of the
   session. -/
def takeConnection : Act Session Unit := do
  let session ← Act.state
  Driver.acquire session.engine (← poolNumber)
  repoint

/-
  The parameters as the driver is given them; PostgreSQL
  tells none apart from an empty list.
-/
def sentParameters
    (engine : Engine)
    (parameters : List Value) : Option (List Value) :=
  match engine, parameters with
  | .postgres, [] => none
  | _, parameters => some parameters

/- Send a statement and fetch its rows. -/
def fetch
    (statement : String)
    (parameters : List Value) :
    Act Session (List Fields) := do
  let session ← Act.state
  let engine := session.engine
  takeConnection
  let reply ← Driver.execute statement
    (sentParameters engine parameters)
  match engine with
  | .postgres => Driver.fetchAll engine reply
  | .sqlServer =>
      discard (Act.ofExcept (Driver.columnsOf engine reply))
      Driver.fetchAll engine reply

------------------------------------------------------------
-- Operations
------------------------------------------------------------

/- Send a statement on a connection and read nothing. -/
def sendOnly
    (engine : Engine)
    (statement : String) : Act Session Unit := do
  Driver.acquire engine (← poolNumber)
  discard (Driver.execute statement (some []))

/- Point the session at a database, in place. -/
def switchInPlace (database : String) : Act Session Unit := do
  let session ← Act.state
  let statement ← Act.ofExcept (useStatement database)
  Act.wrapping (.operationFailed (.switchDatabase database))
    (sendOnly session.engine statement)
  Act.update fun session =>
    { session with
      database := .text database
      switched := true }
  Act.log .info
    ("Switched MSSQL session to database '" ++ database ++
      "'")

/-
  Close the session by its teardown and open it again with
  another database and all else as before.
-/
def reopen
    (database : String)
    (teardown : Act Session Unit := disconnect) :
    Act Session Unit := do
  let session ← Act.state
  match session.config with
  | none => Act.fail .noStoredConfig
  | some config =>
      teardown
      connect { config with database := .text database }
      Act.log .info
        ("Switched PostgreSQL session to database '" ++
          database ++ "' (reconnected)")

/- Switch to another database in the manner of the engine. -/
def switchDatabase
    (database : String)
    (teardown : Act Session Unit := disconnect) :
    Act Session Unit := do
  requireConnected
  let session ← Act.state
  match session.engine with
  | .sqlServer => switchInPlace database
  | .postgres => reopen database teardown

/- The names of the databases of the server. -/
def listDatabases : Act Session (List Value) := do
  requireConnected
  let session ← Act.state
  let rows ← Act.wrapping (.operationFailed .listDatabases)
    (fetch (CatalogQuery.listDatabases session.engine) [])
  Act.ofExcept (rows.mapM (column · "name"))

/- The tables and views of the database. -/
def listTables : Act Session (List TableInfo) := do
  requireConnected
  let session ← Act.state
  let rows ← Act.wrapping (.operationFailed .listTables)
    (fetch (CatalogQuery.listTables session.engine) [])
  Act.ofExcept (rows.mapM tableOfRow)

/- The schema to look in; an empty name counts as none. -/
def schemaFor
    (engine : Engine) : Option String → String
  | some schema =>
      if schema == "" then engine.defaultSchema else schema
  | none => engine.defaultSchema

/- The columns of a table. -/
def describeTable
    (table : String)
    (schema? : Option String) :
    Act Session (List ColumnInfo) := do
  requireConnected
  let session ← Act.state
  let engine := session.engine
  let schema := schemaFor engine schema?
  let rows ← Act.wrapping
    (.operationFailed (.describeTable schema table))
    (fetch (CatalogQuery.describeTable engine)
      (CatalogQuery.describeParameters schema table engine))
  Act.ofExcept (rows.mapM columnOfRow)

/- The row limit of a statement that is given none. -/
def defaultRowLimit : Int := 100

/- How much of a capped statement is logged. -/
def loggedLength : Nat := 200

/- A statement capped at a limit, where it needs a cap. -/
def cappedStatement
    (engine : Engine)
    (sql : String)
    (limit : Value) : Except Failure String :=
  match Statement.rowCap? engine sql.toList with
  | some cap => do
      let n ← limit.whole.mapError .unusableLimit
      return String.ofList (cap n)
  | none => .ok sql

/- What is logged of a statement that was capped. -/
def cappedText
    (limit : Value)
    (statement : String) : String :=
  "Applied row limit " ++ limit.displayText ++ ": " ++
    String.ofList (statement.toList.take loggedLength)

/- The result that a reply tells of. -/
def resultOf
    (engine : Engine)
    (reply : Reply) : Act Session QueryResult := do
  match reply.columns with
  | none =>
      let affectedRows :=
        if 0 ≤ reply.rowCount then
          some reply.rowCount
        else
          none
      return { affectedRows }
  | some columns =>
      let rows ← Driver.fetchAll engine reply
      return { columns, rows, rowCount := rows.length }

/- Send a statement on a connection and read its reply. -/
def sendStatement
    (engine : Engine)
    (statement : String) : Act Session QueryResult := do
  takeConnection
  let reply ← Driver.execute statement
    (sentParameters engine [])
  resultOf engine reply

/- Execute a statement, capped where it needs a cap. -/
def executeQuery
    (sql : String)
    (limit : Value) : Act Session QueryResult := do
  requireConnected
  let session ← Act.state
  let engine := session.engine
  let statement ←
    Act.ofExcept (cappedStatement engine sql limit)
  if statement ≠ sql then
    Act.log .debug (cappedText limit statement)
  Act.wrapping (.operationFailed .executeQuery)
    (sendStatement engine statement)

end Session

end SqlGateway
