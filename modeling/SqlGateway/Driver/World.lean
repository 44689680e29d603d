import SqlGateway.Failure.Basic

/-
  This file defines the world of the database drivers as the
  gateway meets it: what it asks of them, how they behave,
  which failures they raise, and what is logged.

  Key definitions include:
    * `Event`
    * `Raised`
    * `Script`
    * `LogRecord`
    * `World`
-/

namespace SqlGateway

------------------------------------------------------------
-- Calls of Drivers
------------------------------------------------------------

/-
  What a PostgreSQL pool is made with, beside its connection
  string: the bounds of its size, and whether it opens at
  once, commits each statement, gives rows by the names of
  columns and checks a connection before it hands it out;
  and for how many seconds it is waited for one.
-/
structure PostgresPoolOptions where
  minSize : Int
  maxSize : Int
  opensAtOnce : Bool
  autocommit : Bool
  rowsByName : Bool
  checksConnections : Bool
  timeout : Nat
deriving Repr, DecidableEq

/-
  What an ODBC pool is made with: the bounds of its size,
  whether it commits each statement, and after how many
  seconds a connection and then a statement is given up.
-/
structure OdbcPoolOptions where
  minSize : Int
  maxSize : Int
  autocommit : Bool
  timeout : Nat
  statementTimeout : Nat
deriving Repr, DecidableEq

/-
  A call of a driver.  A PostgreSQL pool has its number from
  the start and is opened in a call of its own; an ODBC pool
  gets a number once it is made, and `poolReady` tells the
  statement timeout set on its first connection.
-/
inductive Event where
  | createPostgresPool
      (pool : Nat)
      (connectionString : String)
      (options : PostgresPoolOptions)
  | openPool (pool : Nat) (waits : Bool) (timeout : Nat)
  | createOdbcPool
      (connectionString : List Text.Code)
      (options : OdbcPoolOptions)
  | poolReady (pool : Nat) (timeout : Nat)
  | acquire (engine : Engine) (pool : Nat)
  | closePool (engine : Engine) (pool : Nat)
  | waitClosed (pool : Nat)
  | execute
      (statement : String)
      (parameters : Option (List Value))
  | fetchAll

/-
  The calls of a driver that may fail.  The connection
  string of a PostgreSQL pool is put together by the driver
  too, and counts as a part of making the pool.
-/
inductive DriverCall where
  | makePool (engine : Engine)
  | openPool
  | acquire
  | closePool
  | waitClosed
  | execute
  | fetchAll
deriving Repr, DecidableEq

/- A failure that a driver raised, and in which call. -/
structure Raised where
  call : DriverCall
  failure : Failure

------------------------------------------------------------
-- Scripts
------------------------------------------------------------

/- How a call fails on a pool, by the number of the pool. -/
def PoolFailures : Type :=
  Nat → Option Failure

namespace PoolFailures

/- On every pool a call fails in the same way, or on none. -/
def everywhere
    (failure? : Option Failure) : PoolFailures :=
  fun _ => failure?

instance : Coe (Option Failure) PoolFailures :=
  ⟨everywhere⟩

end PoolFailures

/-
  What one statement gives.  Without columns it has no
  result set, and a row count below zero is unknown.
-/
structure Reply where
  error : Option Failure := none
  columns : Option (List String) := none
  rows : List (List Value) := []
  rowCount : Int := -1
  fetchError : Option Failure := none

/-
  The failures that the calls of a step meet, and the
  replies to its statements, in their order.  A PostgreSQL
  pool is constructed, an ODBC pool is created; all other
  calls are on a pool that there is.
-/
structure Script where
  constructError : Option Failure := none
  createError : Option Failure := none
  openError : PoolFailures := .everywhere none
  closeError : PoolFailures := .everywhere none
  waitClosedError : PoolFailures := .everywhere none
  acquireError : PoolFailures := .everywhere none
  replies : List Reply := []

------------------------------------------------------------
-- Records
------------------------------------------------------------

/- How much a record matters. -/
inductive LogLevel where
  | debug
  | info
  | warning
  | error
deriving Repr, DecidableEq

namespace LogLevel

/- The name of a level. -/
def name : LogLevel → String
  | debug => "DEBUG"
  | info => "INFO"
  | warning => "WARNING"
  | error => "ERROR"

end LogLevel

/- One record: a level and a message. -/
structure LogRecord where
  level : LogLevel
  message : String
deriving Repr, DecidableEq

------------------------------------------------------------
-- Worlds
------------------------------------------------------------

/-
  What the drivers will do, what they were asked, what they
  raised and what was logged, in order, and the number of
  the next pool.
-/
structure World where
  script : Script := {}
  events : List Event := []
  raised : List Raised := []
  logs : List LogRecord := []
  nextPool : Nat := 1

namespace World

/- A step begins: a new script, and nothing recorded yet. -/
def step
    (world : World)
    (script : Script) : World :=
  { world with
    script, events := [], raised := [], logs := [] }

end World

end SqlGateway
