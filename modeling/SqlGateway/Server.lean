import SqlGateway.Tool.Call

/-
  This file defines a server: how it starts on a transport,
  answers calls, and shuts down.

  Key definitions include:
    * `Transport`
    * `ToolCall`
    * `runCalls`
    * `Visit`
    * `serve`
    * `runServer`
-/

namespace SqlGateway

------------------------------------------------------------
-- Transports and Calls
------------------------------------------------------------

/- The ways in which clients reach a server. -/
inductive Transport where
  | stdio
  | sse
  | streamableHttp
deriving Repr, DecidableEq

namespace Transport

/- The name of a transport. -/
def name : Transport → String
  | stdio => "stdio"
  | sse => "sse"
  | streamableHttp => "streamable-http"

/- All transports. -/
def all : List Transport :=
  [stdio, sse, streamableHttp]

/- The transport of a name, letter for letter. -/
def ofName? (text : String) : Option Transport :=
  all.find? (·.name == text)

end Transport

/- A call that comes in, and how the drivers behave then. -/
structure ToolCall where
  script : Script := {}
  tool : String
  given : Fields

/- What a call left: the answer, the state after it, and
   what was recorded on the way. -/
structure CallRecord where
  result : Except Rejection String
  state : ConnectionState
  events : List Event
  logs : List LogRecord

/-
  Answer a call.  It fails only by what ends the run, and
  then leaves no record.
-/
def runCall
    (call : ToolCall)
    (c : Connections)
    (world : World) :
    Except Failure CallRecord × Connections × World :=
  let out :=
    (callTool call.tool call.given).run c
      (world.step call.script)
  (out.result.map fun result =>
    { result
      state := out.state.connectionState
      events := out.world.events
      logs := out.world.logs },
    out.state, out.world)

/-
  What calls left: the records of those that were answered,
  and the failure that cut them short, if one did.
-/
structure CallsRun where
  answered : List CallRecord := []
  cut : Option Failure := none
  connections : Connections
  world : World

/- Answer calls, one after the other. -/
def runCalls :
    List ToolCall → Connections → World → CallsRun
  | [], connections, world => { connections, world }
  | call :: calls, c, world =>
      match runCall call c world with
      | (.ok entry, c, world) =>
          let rest := runCalls calls c world
          { rest with answered := entry :: rest.answered }
      | (.error e, connections, world) =>
          { cut := some e, connections, world }

------------------------------------------------------------
-- Starting and Stopping
------------------------------------------------------------

/- The version of the server. -/
def serverVersion : String := "1.0.0"

/- What is logged when a server starts. -/
def startedText
    (transport : Transport)
    (mode : Statement.QueryMode) : String :=
  "SQL MCP Server v" ++ serverVersion ++ " started on " ++
    transport.name ++ " (query mode: " ++ mode.name ++
    " - " ++ mode.description ++ ")"

/- Start on the transport that the settings name. -/
def startUp : Act Connections Transport := do
  let settings := (← Act.state).settings
  match Transport.ofName? settings.transport with
  | none =>
      Act.fail (.unknownTransport settings.transport)
  | some transport =>
      Act.log .info
        (startedText transport settings.queryMode)
      return transport

/- Log a failure of the teardown, unless it ends the run. -/
def noteTeardown (e : Failure) : Act Connections Unit :=
  if e.isConnection then
    Act.log .warning
      ("Session teardown failed during shutdown: " ++
        e.message)
  else
    Act.fail e

/- Close the session; a failure there is only logged. -/
def shutDown : Act Connections Unit := do
  match ← Act.attempt Connections.disconnect with
  | .ok () => pure ()
  | .error e => noteTeardown e
  Act.log .info "SQL MCP Server stopped"

/- How the transport, and with it the server, comes to an
   end. -/
inductive Ending where
  | returned
  | interrupted
  | failed (failure : Failure)

namespace Ending

/- The end that a failure brings. -/
def ofFailure (e : Failure) : Ending :=
  if e.isInterrupt then interrupted else failed e

/- The end that a failure brings, if there is one. -/
def ofFailure? : Option Failure → Ending
  | some e => ofFailure e
  | none => returned

/- What is logged last, unless all went well or the failure
   is one that nothing handles. -/
def lastWords : Ending → List LogRecord
  | returned => []
  | interrupted =>
      [⟨.info, "Interrupted, shutting down"⟩]
  | failed e =>
      if e.endsRun then
        []
      else
        [⟨.error, "Fatal error, shutting down"⟩]

end Ending

------------------------------------------------------------
-- Serving
------------------------------------------------------------

/-
  All that happens while the transport is up: the calls, how
  it ends, and how the drivers behave during the shutdown.
-/
structure Visit where
  calls : List ToolCall := []
  ending : Ending := .returned
  closing : Script := {}

/- What serving left; the records are those of the shutdown,
   or of all if the server did not start. -/
structure Served where
  transport : Option Transport := none
  startupLogs : List LogRecord := []
  calls : List CallRecord := []
  connections : Connections
  world : World
  ending : Ending

/-
  How a server ends: by a failure of its shutdown, else by
  the call that cut the others short, else as its transport
  does.
-/
def endingOf
    (visit : Visit)
    (cut : Option Failure)
    (stopped : Except Failure Unit) : Ending :=
  match stopped, cut with
  | .error e, _ => .ofFailure e
  | .ok (), some e => .ofFailure e
  | .ok (), none => visit.ending

/- Serve until the transport ends, then shut down. -/
def serve
    (visit : Visit)
    (c : Connections)
    (world : World) : Served :=
  let start := startUp.run c world
  match start.result with
  | .error e =>
      { connections := start.state
        world := start.world
        ending := .failed e }
  | .ok transport =>
      let served :=
        runCalls visit.calls start.state start.world
      let stop :=
        shutDown.run served.connections
          (served.world.step visit.closing)
      { transport := some transport
        startupLogs := start.world.logs
        calls := served.answered
        connections := stop.state
        world := stop.world
        ending := endingOf visit served.cut stop.result }

------------------------------------------------------------
-- Running
------------------------------------------------------------

/- The numbers of the levels of logging. -/
def levelNumbers : List (String × Int) :=
  [("CRITICAL", 50), ("FATAL", 50), ("ERROR", 40),
   ("WARNING", 30), ("WARN", 30), ("INFO", 20),
   ("DEBUG", 10), ("NOTSET", 0)]

/- The level before any is set. -/
def initialLevel : Int := 30

/- The level of a name that is none. -/
def fallbackLevel : Int := 20

/- The layout of records, as a literal. -/
def layoutShown : String :=
  "'%(levelname)s:%(name)s:%(message)s'"

/- The styles of layouts, as a literal. -/
def stylesShown : String :=
  "\x7b'%': (<class 'logging.PercentStyle'>, " ++
    layoutShown ++ "), '\x7b': " ++
    "(<class 'logging.StrFormatStyle'>, " ++
    "'\x7blevelname\x7d:\x7bname\x7d:\x7bmessage\x7d'), " ++
    "'$': (<class 'logging.StringTemplateStyle'>, " ++
    "'$\x7blevelname\x7d:$\x7bname\x7d:$\x7bmessage\x7d')\x7d"

/-
  The number of a level of logging.  Two names stand for the
  layout of records and for the styles of layouts, which
  cannot be levels.
-/
def levelNumber (name : String) : Except Failure Int :=
  if name == "BASIC_FORMAT" then
    .error (.unknownLogLevel layoutShown)
  else if name == "_STYLES" then
    .error (.unusableLogLevel stylesShown)
  else
    .ok (((levelNumbers.find? (·.1 == name)).map
      (·.2)).getD fallbackLevel)

/- What running a server left.  Nothing was served if the
   settings were at fault. -/
structure ServerRun where
  rootLevel : Int := initialLevel
  settings : Option Settings := none
  served : Option Served := none
  ending : Ending

namespace ServerRun

/- The records after the calls, the last words included. -/
def logs (run : ServerRun) : List LogRecord :=
  match run.served with
  | some served =>
      served.world.logs ++ served.ending.lastWords
  | none => []

end ServerRun

/- Run a server with the settings of an environment. -/
def runServer
    (env : Environment)
    (visit : Visit) : ServerRun :=
  let ready : Except Failure (Settings × Int) := do
    let settings ← Settings.load env
    let level ← levelNumber settings.logLevel
    return (settings, level)
  match ready with
  | .error e => { ending := .failed e }
  | .ok (settings, rootLevel) =>
      let served := serve visit { settings } {}
      { rootLevel
        settings := some settings
        served := some served
        ending := served.ending }

end SqlGateway
