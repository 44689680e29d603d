import SqlGateway.Failure.Message
import SqlGateway.Json.Writer

/-
  This file defines the answer to a client whose call
  failed: the wording, the code, and a hint where the
  failure underneath is known.

  Key definitions include:
    * `Failure.hint?`
    * `Failure.report`
-/

namespace SqlGateway

namespace Failure

------------------------------------------------------------
-- Hints
------------------------------------------------------------

/- What to do about a table that does not exist. -/
def tableHint : String :=
  "Use list-tables to discover available tables and " ++
    "their schemas."

/- The kinds of PostgreSQL failure with a hint each. -/
def postgresHints : List (String × String) :=
  [("UndefinedTable", tableHint),
   ("InsufficientPrivilege",
    "The database user lacks the privilege for this " ++
      "operation. Database grants apply in addition to " ++
      "the query mode."),
   ("SyntaxError",
    "Check the SQL syntax for the PostgreSQL dialect."),
   ("QueryCanceled",
    "The statement hit the 30 second timeout. Narrow the " ++
      "query or add a limit.")]

/- The kinds of PostgreSQL failure of a broken connection. -/
def connectionKinds : List String :=
  ["OperationalError", "QueryCanceled",
   "ConnectionTimeout", "PoolTimeout", "PoolClosed",
   "InvalidPassword", "AdminShutdown", "LockNotAvailable",
   "CannotConnectNow", "TooManyConnections"]

/- The phrases that tell why no connection came about. -/
def phraseHints : List (String × String) :=
  [("connection refused",
    "Check the server address, port and that the server " ++
      "accepts TCP connections."),
   ("could not connect",
    "Check the server address, port and that the server " ++
      "accepts TCP connections."),
   ("password authentication failed",
    "Check the user name and password.")]

/- The SQL states with a hint each. -/
def stateHints : List (String × String) :=
  [("42S02", tableHint),
   ("HYT00",
    "The statement or login hit the 30 second timeout."),
   ("HYT01",
    "The statement or login hit the 30 second timeout."),
   ("28000",
    "Login failed. Check the credentials or the " ++
      "windows_auth setting."),
   ("08001",
    "Cannot reach the SQL Server instance. Check server, " ++
      "port and encryption settings."),
   ("08S01",
    "Cannot reach the SQL Server instance. Check server, " ++
      "port and encryption settings.")]

/- A text has a part. -/
def hasPart
    (part : List Char) : List Char → Bool
  | [] => part.isEmpty
  | c :: cs =>
      part.isPrefixOf (c :: cs) || hasPart part cs

/- The hint under a name. -/
def hintUnder?
    (hints : List (String × String))
    (name : String) : Option String :=
  (hints.find? (·.1 == name)).map (·.2)

/- The hint of the first phrase found in a text. -/
def phraseHint? (text : String) : Option String :=
  let cs := text.toList.map Char.toLower
  (phraseHints.find? fun hint =>
    hasPart hint.1.toList cs).map (·.2)

/- The hint for a failure of the PostgreSQL driver. -/
def postgresHint? (f : Failure) : Option String :=
  match f with
  | foreign .postgresDriver kind _ =>
      match hintUnder? postgresHints kind with
      | some hint => some hint
      | none =>
          if connectionKinds.contains kind then
            phraseHint? f.message
          else
            none
  | _ => none

/- The hint for the SQL state that comes first. -/
def stateHint? (f : Failure) : Option String :=
  match f.details with
  | .text state :: _ => hintUnder? stateHints state
  | _ => none

/- The hint for a failure of the system. -/
def timeoutHint? : Failure → Option String
  | foreign .system "TimeoutError" _ =>
      some "The operation timed out after 30 seconds."
  | _ => none

/- What to do next about a failure, where it is known. -/
def hint? (f : Failure) : Option String :=
  f.postgresHint? <|> f.stateHint? <|> f.timeoutHint?

------------------------------------------------------------
-- Reports
------------------------------------------------------------

/- The hint that goes with a report. -/
def reportHint? (f : Failure) : Option String :=
  if f.category?.isSome then
    f.cause?.bind hint?
  else
    f.hint?

/- What a report tells; a foreign kind is named. -/
def reportContent (f : Failure) : Value :=
  if f.category?.isSome then
    f.shown
  else
    .text (f.kindName ++ ": " ++ f.message)

/- The fields of a report. -/
def reportFields (f : Failure) : Fields :=
  [("success", .bool false),
   ("error", f.reportContent),
   ("code", .text (f.code?.getD "INTERNAL_ERROR"))] ++
    match f.reportHint? with
    | some hint => [("hint", .text hint)]
    | none => []

/- The answer to a client whose call failed. -/
def report (f : Failure) : String :=
  Json.document (.object f.reportFields)

end Failure

end SqlGateway
