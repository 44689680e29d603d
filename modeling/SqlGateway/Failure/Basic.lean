import SqlGateway.Statement.Authorize
import SqlGateway.Engine
import SqlGateway.Value.Whole

/-
  This file defines the failures of the gateway by their
  causes: what the gateway refuses itself, what a driver
  raised on the way, and which operation it ended.

  Key definitions include:
    * `Category`
    * `Origin`
    * `Operation`
    * `Failure`
-/

namespace SqlGateway

------------------------------------------------------------
-- Categories
------------------------------------------------------------

/- The categories of the gateway's own failures. -/
inductive Category where
  | general
  | connection
  | query
  | validation
  | permission
  | notConnected
  | unsupportedEngine
deriving Repr, DecidableEq

namespace Category

/- The kind of failure that a category is shown as. -/
def kindName : Category → String
  | general => "SqlMcpError"
  | connection => "ConnectionError"
  | query => "QueryError"
  | validation => "ValidationError"
  | permission => "PermissionError"
  | notConnected => "NotConnectedError"
  | unsupportedEngine => "UnsupportedEngineError"

/- The stable code of a category. -/
def code : Category → String
  | general => "SQL_MCP_ERROR"
  | connection => "CONNECTION_ERROR"
  | query => "QUERY_ERROR"
  | validation => "VALIDATION_ERROR"
  | permission => "PERMISSION_ERROR"
  | notConnected => "NOT_CONNECTED"
  | unsupportedEngine => "UNSUPPORTED_ENGINE"

end Category

------------------------------------------------------------
-- Failures
------------------------------------------------------------

/- Where a failure from outside the gateway comes from. -/
inductive Origin where
  | postgresDriver
  | odbcDriver
  | system
deriving Repr, DecidableEq

/- The operations that send statements. -/
inductive Operation where
  | switchDatabase (database : String)
  | listDatabases
  | listTables
  | describeTable (schema table : String)
  | executeQuery
deriving Repr, DecidableEq

namespace Operation

/- What is said when an operation fails. -/
def failureText : Operation → String
  | switchDatabase database =>
      "Failed to switch to database '" ++ database ++ "'"
  | listDatabases => "Failed to list databases"
  | listTables => "Failed to list tables"
  | describeTable schema table =>
      "Failed to describe table '" ++ schema ++ "." ++
        table ++ "'"
  | executeQuery => "Query execution failed"

end Operation

/- The settings whose values come from a fixed list. -/
inductive Choice where
  | queryMode
  | engine
  | tableKind
  | responseFormat
deriving Repr, DecidableEq

namespace Choice

/- The name of a choice in messages. -/
def name : Choice → String
  | queryMode => "QueryMode"
  | engine => "DatabaseEngine"
  | tableKind => "TableKind"
  | responseFormat => "ResponseFormat"

end Choice

/-
  A failure, by its cause.

  The gateway refuses a statement, a name, an engine, or a
  call without a session; a driver's failure ends opening,
  closing or an operation; `reported` is one of the
  gateway's own failures handed in from outside, and
  `foreign` any other.  The rest are faults in what is
  given or found: settings, limits, choices, catalog rows.
-/
inductive Failure where
  | refused (refusal : Statement.Refusal)
  | invalidIdentifier (text : String)
  | notConnected
  | unsupportedEngine (engine : String)
  | noStoredConfig
  | openingFailed (engine : Engine) (cause : Failure)
  | closingFailed (engine : Engine) (cause : Failure)
  | disconnectFailed (cause : Failure)
  | operationFailed
      (operation : Operation)
      (cause : Failure)
  | reported
      (category : Category)
      (content : Value)
      (cause : Option Failure)
  | foreign
      (origin : Origin)
      (kind : String)
      (details : List Value)
  | unreadableNumber (fault : Text.NumberFault)
  | unusableLimit (fault : WholeFault)
  | unknownChoice (choice : Choice) (given : Value)
  | missingColumn (name : String)
  | noColumns
  | noPool
  | poolTooSmall
  | unknownTransport (name : String)
  | unknownLogLevel (shown : String)
  | unusableLogLevel (shown : String)

namespace Failure

/- The kinds of system failure that end a run. -/
def endingKinds : List String :=
  ["KeyboardInterrupt", "SystemExit", "GeneratorExit",
   "CancelledError", "BaseExceptionGroup", "BaseException"]

/-
  A failure ends the run: nothing on its way handles it, and
  no step wraps it or answers it.
-/
def endsRun : Failure → Bool
  | foreign .system kind _ => endingKinds.contains kind
  | _ => false

/- A failure is the interrupt of the one who runs it all. -/
def isInterrupt : Failure → Bool
  | foreign .system kind _ => kind == "KeyboardInterrupt"
  | _ => false

end Failure

end SqlGateway
