import SqlGateway.Failure.Basic
import SqlGateway.Text.UpperCase

/-
  This file defines the settings of a server and how they
  are read from the environment.

  Key definitions include:
    * `Environment`
    * `Settings`
    * `Settings.load`
-/

namespace SqlGateway

/- The variables of an environment, with their texts. -/
abbrev Environment := List (String × String)

namespace Environment

/- The text of a variable, where it is set. -/
def get?
    (env : Environment)
    (name : String) : Option String :=
  (env.find? (·.1 == name)).map (·.2)

/- The text of a variable, or a default. -/
def getD
    (env : Environment)
    (name default : String) : String :=
  (get? env name).getD default

/- The whole number of a variable, or a default. -/
def wholeD
    (env : Environment)
    (name : String)
    (default : Int) : Except Failure Int :=
  match get? env name with
  | some text =>
      (Text.readInteger text.toList).mapError
        .unreadableNumber
  | none => .ok default

end Environment

/- What a server is told at its start. -/
structure Settings where
  queryMode : Statement.QueryMode
  transport : String
  httpHost : String
  httpPort : Int
  poolMaxSize : Int
  odbcDriver : String
  logLevel : String
deriving Repr, DecidableEq

namespace Settings

/-
  The settings of an environment.  The port is read before
  the size of the pool, so its fault is the one reported.
-/
def load (env : Environment) : Except Failure Settings := do
  let httpPort ← env.wholeD "SQL_MCP_PORT" 8000
  let poolMaxSize ← env.wholeD "SQL_MCP_POOL_MAX" 10
  return {
    queryMode := .ofSetting (env.get? "SQL_MCP_MODE")
    transport := env.getD "SQL_MCP_TRANSPORT" "stdio"
    httpHost := env.getD "SQL_MCP_HOST" "127.0.0.1"
    httpPort
    poolMaxSize
    odbcDriver :=
      env.getD "SQL_MCP_ODBC_DRIVER"
        "ODBC Driver 18 for SQL Server"
    logLevel :=
      Text.upperCase (env.getD "SQL_MCP_LOG_LEVEL" "INFO")
  }

end Settings

end SqlGateway
