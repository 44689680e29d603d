import SqlGateway.Tool.Params

/-
  This file defines the tools that the gateway serves, and
  how each is described to clients.

  Key definitions include:
    * `Tool`
    * `Tool.ofName?`
    * `Tool.describe`
-/

namespace SqlGateway

------------------------------------------------------------
-- Tools
------------------------------------------------------------

/- The tools, in the order in which they are listed. -/
inductive Tool where
  | connect
  | disconnect
  | status
  | listDatabases
  | switchDatabase
  | listTables
  | describeTable
  | executeQuery
deriving Repr, DecidableEq

namespace Tool

/- All tools. -/
def all : List Tool :=
  [connect, disconnect, status, listDatabases,
   switchDatabase, listTables, describeTable, executeQuery]

/- The name of a tool. -/
def name : Tool → String
  | connect => "connect-database"
  | disconnect => "disconnect"
  | status => "connection-status"
  | listDatabases => "list-databases"
  | switchDatabase => "switch-database"
  | listTables => "list-tables"
  | describeTable => "describe-table"
  | executeQuery => "execute-query"

/- The tool of a name. -/
def ofName? (text : String) : Option Tool :=
  all.find? (·.name == text)

------------------------------------------------------------
-- Descriptions and Arguments
------------------------------------------------------------

/- The title of a tool. -/
def title : Tool → String
  | connect => "Connect Database"
  | disconnect => "Disconnect"
  | status => "Connection Status"
  | listDatabases => "List Databases"
  | switchDatabase => "Switch Database"
  | listTables => "List Tables"
  | describeTable => "Describe Table"
  | executeQuery => "Execute Query"

/- What a tool does, for people. -/
def description : Tool → String
  | connect =>
      "Connect to a database server (MSSQL or " ++
        "PostgreSQL).\n\n" ++
        "Any existing connection is closed first; only " ++
        "one session is live\nat a time."
  | disconnect =>
      "Disconnect from the current database. Safe to call " ++
        "when not connected."
  | status =>
      "Report the current connection and the server's " ++
        "query mode."
  | listDatabases =>
      "List the user databases on the connected server."
  | switchDatabase =>
      "Switch to another database on the connected " ++
        "server.\n\n" ++
        "MSSQL switches in place with USE. PostgreSQL " ++
        "has to reconnect: the\nold session is closed " ++
        "and its temporary tables and session " ++
        "settings\nare lost."
  | listTables =>
      "List all tables and views in the current " ++
        "database, with a count of each."
  | describeTable =>
      "Get column names, types, nullability, defaults, " ++
        "comments and the\nprimary key of a table. " ++
        "Essential before writing queries."
  | executeQuery =>
      "Execute a SQL query against the connected " ++
        "database.\n\n" ++
        "Allowed statements depend on SQL_MCP_MODE: safe " ++
        "permits SELECT,\nWITH, EXPLAIN, SHOW and " ++
        "DESCRIBE; write adds INSERT, UPDATE, DELETE\n" ++
        "and MERGE; full permits everything. SELECTs " ++
        "without their own limit\nare capped at " ++
        "\x60\x60limit\x60\x60 rows."

/- The tool changes nothing. -/
def isReadOnly : Tool → Bool
  | status => true
  | listDatabases => true
  | listTables => true
  | describeTable => true
  | _ => false

/- The tool may destroy data. -/
def isDestructive (tool : Tool) : Bool :=
  tool == executeQuery

/- A second call of the tool changes nothing more. -/
def isIdempotent (tool : Tool) : Bool :=
  tool != connect && tool != executeQuery

/- The tool reaches beyond what is known beforehand. -/
def isOpenWorld (tool : Tool) : Bool :=
  tool == connect

/- The notes on a tool. -/
def annotations (tool : Tool) : Fields :=
  [("title", .text tool.title),
   ("readOnlyHint", .bool tool.isReadOnly),
   ("destructiveHint", .bool tool.isDestructive),
   ("idempotentHint", .bool tool.isIdempotent),
   ("openWorldHint", .bool tool.isOpenWorld)]

/- The title of the arguments of a tool. -/
def argumentsTitle (tool : Tool) : String :=
  String.intercalate "_" (tool.name.splitOn "-") ++
    "Arguments"

/- The description of arguments without parameters. -/
def describeNone (tool : Tool) : Fields :=
  [("type", .text "object"),
   ("title", .text tool.argumentsTitle),
   ("properties", .object [])]

/- The description of arguments with parameters. -/
def describeParams
    {α : Type}
    (tool : Tool)
    (model : Model α) : Fields :=
  [("type", .text "object"),
   ("title", .text tool.argumentsTitle),
   ("properties",
    .object
      [("params", .object (Kind.reference model.name))]),
   ("required", .ofTexts ["params"]),
   ("$defs", .object model.allDefinitions)]

/- The description of the arguments of a tool. -/
def arguments (tool : Tool) : Fields :=
  match tool with
  | connect => tool.describeParams ConnectParams.model
  | switchDatabase => tool.describeParams SwitchParams.model
  | describeTable =>
      tool.describeParams DescribeParams.model
  | executeQuery => tool.describeParams QueryParams.model
  | _ => tool.describeNone

/- The description of a tool. -/
def describe (tool : Tool) : Fields :=
  [("name", .text tool.name),
   ("description", .text tool.description),
   ("annotations", .object tool.annotations),
   ("input_schema", .object tool.arguments)]

end Tool

end SqlGateway
