import SqlGateway.Connections
import SqlGateway.Failure.Report
import SqlGateway.Json.Reader
import SqlGateway.Tool.Registry

/-
  This file defines the calls of tools: the parameters are
  checked, a statement is admitted if the query mode permits
  it, the work is done on the connections, and whatever
  happens there becomes the answer.

  Key definitions include:
    * `Request`
    * `Rejection`
    * `Request.ofCall`
    * `permit`
    * `answering`
    * `Request.answer`
    * `callTool`
-/

namespace SqlGateway

------------------------------------------------------------
-- Requests
------------------------------------------------------------

/- A call of a tool with parameters that passed the check. -/
inductive Request where
  | connect (params : ConnectParams)
  | disconnect
  | status
  | listDatabases
  | switchDatabase (params : SwitchParams)
  | listTables
  | describeTable (params : DescribeParams)
  | executeQuery (params : QueryParams)

/- Why a call is turned away before any work. -/
inductive Rejection where
  | unknownTool (name : String)
  | unreadableParams (tool : Tool) (fault : Json.Fault)
  | invalidParams (tool : Tool) (issues : List Issue)

namespace Rejection

/-
  The wording of a rejection.  The library that checks the
  parameters has a wording of its own for a list of issues,
  in which it shows the input of each.
-/
def message
    (wording : List Issue → String) : Rejection → String
  | unknownTool name => "Unknown tool: " ++ name
  | unreadableParams tool fault =>
      "Error executing tool " ++ tool.name ++ ": " ++
        fault.message
  | invalidParams tool issues =>
      "Error executing tool " ++ tool.name ++ ": " ++
        wording issues

end Rejection

/-
  How many containers a document given as parameters may
  hold inside each other.  No part of the gateway says so:
  it is what the call stack of the interpreter has left for
  the reader of documents when a tool is called.
-/
def paramsDepth : Nat := 975

/-
  The parameters as they are checked.  A text that holds a
  document is read, unless it stands for a text, a number or
  a truth value; a text that is no document stays a text.
-/
def readParams (v : Value) : Except Json.Fault Value :=
  match v with
  | .text s =>
      match Json.readWithin paramsDepth s.toList with
      | .ok .null => .ok .null
      | .ok (.list vs) => .ok (.list vs)
      | .ok (.object fields) => .ok (.object fields)
      | .ok _ => .ok v
      | .error .malformed => .ok v
      | .error fault => .error fault
  | _ => .ok v

/- The parameters that are given, checked against a model. -/
def checkGiven
    {α : Type}
    (tool : Tool)
    (model : Model α)
    (given : Value) : Except Rejection (Checked α) :=
  match readParams given with
  | .ok v => .ok (model.check v)
  | .error fault => .error (.unreadableParams tool fault)

/- The parameters of a call, checked against a model. -/
def checkParams
    {α : Type}
    (tool : Tool)
    (model : Model α)
    (given : Fields) : Except Rejection α := do
  let checked ←
    match Fields.get? given "params" with
    | some v => checkGiven tool model v
    | none => pure (.issue .missing (.object given))
  match checked.under "params" with
  | .accepted params => return params
  | .rejected issues => throw (.invalidParams tool issues)

namespace Request

/- The request that the arguments of a tool make. -/
def ofArguments
    (tool : Tool)
    (given : Fields) : Except Rejection Request :=
  match tool with
  | .connect =>
      connect <$> checkParams tool ConnectParams.model given
  | .disconnect => pure disconnect
  | .status => pure status
  | .listDatabases => pure listDatabases
  | .switchDatabase =>
      switchDatabase <$>
        checkParams tool SwitchParams.model given
  | .listTables => pure listTables
  | .describeTable =>
      describeTable <$>
        checkParams tool DescribeParams.model given
  | .executeQuery =>
      executeQuery <$>
        checkParams tool QueryParams.model given

/- The request that a call makes. -/
def ofCall
    (name : String)
    (given : Fields) : Except Rejection Request :=
  match Tool.ofName? name with
  | some tool => ofArguments tool given
  | none => .error (.unknownTool name)

end Request

------------------------------------------------------------
-- Admission
------------------------------------------------------------

section

variable {σ : Type}

/- What is logged of an attempt to smuggle a statement. -/
def smuggledText (mode : Statement.QueryMode) : String :=
  "Rejected statement with injection pattern in " ++
    mode.name ++ " mode"

/- Log a refusal, where it is worth it, and fail. -/
def refuse
    (mode : Statement.QueryMode)
    (refusal : Statement.Refusal) : Act σ Unit := do
  if refusal = .dangerousPattern then
    Act.log .warning (smuggledText mode)
  Act.fail (.refused refusal)

/- Permit a statement under a mode, or fail. -/
def permit
    (mode : Statement.QueryMode)
    (sql : String) : Act σ Unit :=
  match Statement.authorize mode sql.toList with
  | .ok () => pure ()
  | .error refusal => refuse mode refusal

/- Report a failure to the client. -/
def reportFailure (e : Failure) : Act σ String := do
  if e.category?.isNone then
    Act.log .error
      "Unexpected error while handling a tool call"
  return e.report

/- Answer a call, with a report if it fails. -/
def answering (call : Act σ String) : Act σ String :=
  Act.rescue call reportFailure

end

------------------------------------------------------------
-- Tools
------------------------------------------------------------

/- What is shown of the session, as an action. -/
def shownState : Act Connections ConnectionState := do
  return (← Act.state).connectionState

/- Connect to a server. -/
def runConnect
    (params : ConnectParams) : Act Connections String := do
  Connections.connect params.toConfig
  let shown ← shownState
  return successAnswer
    [("message",
      .text ("Connected to " ++ params.engine.name ++
        " server at " ++ params.server)),
     ("database", shown.database)]

/- Close the session, if there is one. -/
def runDisconnect : Act Connections String := do
  let c ← Act.state
  Connections.disconnect
  let message :=
    if c.isConnected then
      "Disconnected from database"
    else
      "No active connection to disconnect"
  return successAnswer [("message", .text message)]

/- Tell of the session and the query mode. -/
def runStatus
    (mode : Statement.QueryMode) :
    Act Connections String := do
  let shown ← shownState
  return successAnswer
    (shown.toFields ++
      [("queryMode", .text mode.name),
       ("queryModeDescription", .text mode.description)])

/- Switch to another database. -/
def runSwitch
    (params : SwitchParams) : Act Connections String := do
  Connections.switchDatabase params.database
  let shown ← shownState
  return successAnswer
    [("message",
      .text ("Switched to database '" ++ params.database ++
        "'")),
     ("database", shown.database)]

/- List the databases. -/
def runListDatabases : Act Connections String := do
  let names ← Connections.listDatabases
  return successAnswer
    [("databases", .list names),
     ("count", .int names.length)]

/- List the tables and views, and count them. -/
def runListTables : Act Connections String := do
  let tables ← Connections.listTables
  let total := tables.length
  let count := tables.countP fun t => t.kind == .table
  return successAnswer
    [("tables",
      .list (tables.map fun t => .object t.toFields)),
     ("summary",
      .object
        [("total", .int total),
         ("tables", .int count),
         ("views", .int (total - count))])]

/- Describe the columns of a table. -/
def runDescribe
    (params : DescribeParams) : Act Connections String := do
  let schema? := params.schemaName
  let columns ←
    Connections.describeTable params.table schema?
  let keys := columns.filter ColumnInfo.isPrimaryKey
  return successAnswer
    [("tableName", .text params.table),
     ("schema", .text (schema?.getD "default")),
     ("columns",
      .list (columns.map fun c => .object c.toFields)),
     ("primaryKeys", .list (keys.map ColumnInfo.name)),
     ("columnCount", .int columns.length)]

/- Execute a statement that the query mode permits. -/
def runQuery
    (mode : Statement.QueryMode)
    (params : QueryParams) : Act Connections String := do
  permit mode params.query
  let result ←
    Connections.executeQuery params.query
      (.int params.limit)
  return result.answer mode.name params.format

------------------------------------------------------------
-- Calls
------------------------------------------------------------

namespace Request

/- The work of a request, which may fail. -/
def run
    (mode : Statement.QueryMode) :
    Request → Act Connections String
  | connect params => runConnect params
  | disconnect => runDisconnect
  | status => runStatus mode
  | listDatabases => runListDatabases
  | switchDatabase params => runSwitch params
  | listTables => runListTables
  | describeTable params => runDescribe params
  | executeQuery params => runQuery mode params

/- The answer to a request, a failure included. -/
def answer
    (mode : Statement.QueryMode)
    (request : Request) : Act Connections String :=
  answering (request.run mode)

end Request

/- Call a tool by its name. -/
def callTool
    (name : String)
    (given : Fields) :
    Act Connections (Except Rejection String) := do
  match Request.ofCall name given with
  | .error rejection => return .error rejection
  | .ok request =>
      let c ← Act.state
      let text ← request.answer c.settings.queryMode
      return .ok text

end SqlGateway
