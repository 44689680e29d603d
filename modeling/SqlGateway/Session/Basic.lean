import SqlGateway.Connection.Config
import SqlGateway.Driver.Calls
import SqlGateway.Settings

/-
  This file defines a session with one engine: its pool, the
  database it is pointed at, and what it was opened with.

  Key definitions include:
    * `Session`
    * `Session.create`
    * `Session.requireConnected`
    * `Session.disconnect`
-/

namespace SqlGateway

/-
  A session, open or not.  `switched` tells that the session
  was pointed at another database than its pool opens.
-/
structure Session where
  engine : Engine
  settings : Settings
  pool : Option Nat := none
  connected : Bool := false
  database : Value := .null
  config : Option ConnectionConfig := none
  switched : Bool := false

namespace Session

/- A session for the engine of a name, not yet open. -/
def create
    (engineName : String)
    (settings : Settings) : Except Failure Session :=
  match Engine.ofName? engineName with
  | some engine => .ok { engine, settings }
  | none => .error (.unsupportedEngine engineName)

/- The session without all that opening gave it. -/
def closed (session : Session) : Session :=
  { session with
    pool := none
    connected := false
    database := .null
    config := none
    switched := false }

/- The session after it was opened. -/
def opened
    (session : Session)
    (pool : Nat)
    (database : Value)
    (config : ConnectionConfig) : Session :=
  { session with
    pool := some pool
    connected := true
    database
    config := some config
    switched := false }

/- Refuse to go on without an open session. -/
def requireConnected : Act Session Unit := do
  let session ← Act.state
  if session.connected then
    return
  else
    Act.fail .notConnected

/- The pool of the session. -/
def poolNumber : Act Session Nat := do
  let session ← Act.state
  match session.pool with
  | some pool => return pool
  | none => Act.fail .noPool

/-
  Close the session, which is safe at any time.  Nothing of
  it is left, even if its pool fails to close.
-/
def disconnect : Act Session Unit := do
  let session ← Act.state
  Act.update closed
  match session.pool with
  | none => return
  | some pool =>
      Act.wrapping (.closingFailed session.engine) do
        Driver.releasePool session.engine pool
        Act.log .info
          (session.engine.title ++
            " connection pool closed")

end Session

end SqlGateway
