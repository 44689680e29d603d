import SqlGateway.Driver.Act

/-
  This file defines the calls of the database drivers.  Each
  call is recorded before it fails.

  Key definitions include:
    * `createPostgresPool`
    * `createOdbcPool`
    * `acquire`
    * `closePool`
    * `execute`
    * `fetchAll`
-/

namespace SqlGateway

namespace Driver

variable {σ : Type}

/- Make a PostgreSQL pool, whose greatest size is not below
   its least. -/
def createPostgresPool
    (connectionString : String)
    (options : PostgresPoolOptions) : Act σ Nat := do
  if options.maxSize < options.minSize then
    Act.raise (.makePool .postgres) .poolTooSmall
  else
    Act.failIf (.makePool .postgres)
      (← Act.script).constructError
    let pool ← Act.newPool
    Act.emit
      (.createPostgresPool pool connectionString options)
    return pool

/- Open a PostgreSQL pool. -/
def openPool
    (pool : Nat)
    (waits : Bool)
    (timeout : Nat) : Act σ Unit := do
  Act.emit (.openPool pool waits timeout)
  Act.failIf .openPool ((← Act.script).openError pool)

/- Make an ODBC pool with its first connection. -/
def createOdbcPool
    (connectionString : List Text.Code)
    (options : OdbcPoolOptions) : Act σ Nat := do
  Act.emit (.createOdbcPool connectionString options)
  Act.failIf (.makePool .sqlServer)
    (← Act.script).createError
  let pool ← Act.newPool
  Act.emit (.poolReady pool options.statementTimeout)
  return pool

/- Take a connection from a pool. -/
def acquire
    (engine : Engine)
    (pool : Nat) : Act σ Unit := do
  Act.emit (.acquire engine pool)
  Act.failIf .acquire ((← Act.script).acquireError pool)

/- Close a pool. -/
def closePool
    (engine : Engine)
    (pool : Nat) : Act σ Unit := do
  Act.emit (.closePool engine pool)
  Act.failIf .closePool ((← Act.script).closeError pool)

/- Wait until an ODBC pool is closed. -/
def waitClosed (pool : Nat) : Act σ Unit := do
  Act.emit (.waitClosed pool)
  Act.failIf .waitClosed
    ((← Act.script).waitClosedError pool)

/- Close a pool in the manner of its engine. -/
def releasePool
    (engine : Engine)
    (pool : Nat) : Act σ Unit := do
  closePool engine pool
  match engine with
  | .sqlServer => waitClosed pool
  | .postgres => return

/- Send a statement with its parameters. -/
def execute
    (statement : String)
    (parameters : Option (List Value)) : Act σ Reply := do
  Act.emit (.execute statement parameters)
  let reply ← Act.nextReply
  Act.failIf .execute reply.error
  return reply

/- The failure of the PostgreSQL driver on a statement
   without a result set. -/
def noResultSet : Failure :=
  .foreign .postgresDriver "ProgrammingError"
    [.text "the last operation didn't produce records"]

/- The columns of a reply, which must have a result set. -/
def columnsOf
    (engine : Engine)
    (reply : Reply) : Except Failure (List String) :=
  match reply.columns, engine with
  | some columns, _ => .ok columns
  | none, .postgres => .error noResultSet
  | none, .sqlServer => .error .noColumns

/- Fetch all rows of a reply, with the names of columns. -/
def fetchAll
    (engine : Engine)
    (reply : Reply) : Act σ (List Fields) := do
  Act.emit .fetchAll
  Act.failIf .fetchAll reply.fetchError
  let columns ←
    Act.ofDriver .fetchAll (columnsOf engine reply)
  return reply.rows.map (Fields.ofColumns columns)

end Driver

end SqlGateway
