import SqlGateway.Server

/-
  This file defines the command line.  Calls come in on
  standard input, one document a line, and answers go to
  standard output; records go to standard error.  No
  database driver is linked, so no session can be opened.

  Key definitions include:
    * `main`
-/

namespace SqlGateway

namespace CommandLine

/- The variables that settings are read from. -/
def settingNames : List String :=
  ["SQL_MCP_MODE", "SQL_MCP_TRANSPORT", "SQL_MCP_HOST",
   "SQL_MCP_PORT", "SQL_MCP_POOL_MAX",
   "SQL_MCP_ODBC_DRIVER", "SQL_MCP_LOG_LEVEL"]

/- The environment of the process. -/
def readEnvironment : IO Environment := do
  let entries ← settingNames.mapM fun name => do
    return (← IO.getEnv name).map fun text => (name, text)
  return entries.filterMap id

/- The failure of every attempt to open a session. -/
def unlinkedDriver : Failure :=
  .foreign .system "RuntimeError"
    [.text "no database driver is linked"]

/- The behaviour of drivers that are not there. -/
def unlinkedScript : Script where
  createError := some unlinkedDriver
  openError := some unlinkedDriver

/- A call, from the document that describes it. -/
def callOfLine (text : String) : ToolCall :=
  let fields : Fields :=
    match Json.read text.toList with
    | .ok (.object fields) => fields
    | _ => []
  { script := unlinkedScript
    tool := ((fields.get? "tool").getD .null).displayText
    given :=
      match fields.get? "args" with
      | some (.object given) => given
      | _ => [] }

/- A list of issues, as a document. -/
def issuesText (issues : List Issue) : String :=
  Json.document
    (.list (issues.map fun issue =>
      .object issue.toFields))

/- The text of the result of a call. -/
def resultText : Except Rejection String → String
  | .ok text => text
  | .error rejection => rejection.message issuesText

/- Write records to standard error. -/
def writeLogs (logs : List LogRecord) : IO Unit :=
  logs.forM fun r =>
    IO.eprintln (r.level.name ++ " " ++ r.message)

/- Answer the calls that come in until there are no more. -/
partial def answerLines
    (c : Connections)
    (world : World) : IO (Connections × World) := do
  let text ← (← IO.getStdin).getLine
  if text.isEmpty then
    return (c, world)
  let (result, c, world) :=
    runCall (callOfLine text) c world
  match result with
  | .error e =>
      IO.eprintln e.message
      return (c, world)
  | .ok entry =>
      writeLogs entry.logs
      IO.println (resultText entry.result)
      (← IO.getStdout).flush
      answerLines c world

/- Serve until standard input ends. -/
def serveLines (settings : Settings) : IO UInt32 := do
  let start := startUp.run { settings } {}
  writeLogs start.world.logs
  match start.result with
  | .error e =>
      IO.eprintln e.message
      return 1
  | .ok _ =>
      let (c, world) ←
        answerLines start.state start.world
      let stop := shutDown.run c (world.step {})
      writeLogs stop.world.logs
      return 0

/- Read the settings and serve. -/
def run : IO UInt32 := do
  match Settings.load (← readEnvironment) with
  | .error e =>
      IO.eprintln e.message
      return 1
  | .ok settings => serveLines settings

end CommandLine

end SqlGateway

/- The program. -/
def main : IO UInt32 :=
  SqlGateway.CommandLine.run
