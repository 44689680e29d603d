import SqlGateway.Failure.Message
import SqlGateway.Session.Operations

/-
  This file defines the holder of at most one session, which
  fronts every operation on a database.

  Key definitions include:
    * `Connections`
    * `ConnectionState`
    * `Connections.connect`
    * `Connections.disconnect`
    * `Connections.active`
-/

namespace SqlGateway

------------------------------------------------------------
-- States
------------------------------------------------------------

/- What is shown of the session that is held. -/
structure ConnectionState where
  connected : Bool := false
  engine : Option Engine := none
  database : Value := .null
  server : Value := .null

namespace ConnectionState

/- The fields of a state in an answer. -/
def toFields (s : ConnectionState) : Fields :=
  [("connected", .bool s.connected),
   ("engine", .ofText? (s.engine.map Engine.name)),
   ("server", s.server),
   ("database", s.database)]

end ConnectionState

/-
  The session that is held, if any, and the server it was
  opened to.
-/
structure Connections where
  settings : Settings
  session : Option Session := none
  server : Value := .null

namespace Connections

/- A session is held and open. -/
def isConnected (c : Connections) : Bool :=
  match c.session with
  | some session => session.connected
  | none => false

/- What is shown of the session that is held. -/
def connectionState (c : Connections) : ConnectionState :=
  match c.session with
  | some session =>
      if session.connected then
        { connected := true
          engine := some session.engine
          database := session.database
          server := c.server }
      else
        {}
  | none => {}

/- Nothing is held any more. -/
def cleared (c : Connections) : Connections :=
  { c with session := none, server := .null }

/- A session is held in place of any other. -/
def holding
    (c : Connections)
    (session : Session)
    (server : Value) : Connections :=
  { c with session := some session, server }

------------------------------------------------------------
-- Operations
------------------------------------------------------------

/- A failure of the teardown, as a failure to disconnect,
   unless it ends the run. -/
def teardownFailure (e : Failure) : Failure :=
  if e.isConnection || e.endsRun then
    e
  else
    .disconnectFailed e

/-
  Close the session by its teardown, if one is held.  It is
  let go even if the teardown fails.
-/
def disconnect
    (teardown : Act Session Unit := Session.disconnect) :
    Act Connections Unit := do
  let c ← Act.state
  match c.session with
  | none => return
  | some session =>
      Act.update cleared
      let result ←
        Act.attempt (Act.apart session teardown)
      Act.log .info
        ("Session to " ++ session.engine.name ++ " closed")
      match result with
      | .ok _ => return
      | .error e => Act.fail (teardownFailure e)

/-
  Open a session, closing any other first.  On failure none
  is held.
-/
def connect
    (config : ConnectionConfig)
    (teardown : Act Session Unit := Session.disconnect) :
    Act Connections Unit := do
  disconnect teardown
  let c ← Act.state
  let fresh ← Act.ofExcept
    (Session.create config.engine c.settings)
  let (_, session) ←
    Act.apart fresh (Session.connect config)
  Act.update fun c => c.holding session config.server

/- Put a session in the place of the one that is held. -/
def keep
    (session : Session)
    (c : Connections) : Connections :=
  { c with session := some session }

/- The session that is held, which must be open. -/
def activeSession : Act Connections Session := do
  let c ← Act.state
  match c.session with
  | some session =>
      if session.connected then
        return session
      else
        Act.fail .notConnected
  | none => Act.fail .notConnected

/- Run an operation on the session that is held. -/
def active
    {α : Type}
    (operation : Act Session α) :
    Act Connections α := do
  let session ← activeSession
  Act.within session keep operation

/- Switch to another database. -/
def switchDatabase
    (database : String) : Act Connections Unit :=
  active (Session.switchDatabase database)

/- The names of the databases of the server. -/
def listDatabases : Act Connections (List Value) :=
  active Session.listDatabases

/- The tables and views of the database. -/
def listTables : Act Connections (List TableInfo) :=
  active Session.listTables

/- The columns of a table. -/
def describeTable
    (table : String)
    (schema? : Option String) :
    Act Connections (List ColumnInfo) :=
  active (Session.describeTable table schema?)

/- Execute a statement. -/
def executeQuery
    (sql : String)
    (limit : Value) : Act Connections QueryResult :=
  active (Session.executeQuery sql limit)

end Connections

end SqlGateway
