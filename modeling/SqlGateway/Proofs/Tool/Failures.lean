import SqlGateway.Proofs.Connections.Blames
import SqlGateway.Proofs.Connections.History
import SqlGateway.Tool.Call

/-
  This file shows what becomes of the failures of drivers,
  in the operations of a session and in the answers of the
  tools.

  Key definitions include:
    * `Command.blame`

  Main declarations:
    * `Command.onSession_blamed`
    * `Request.answer_blamed`
    * `driver_failures_blamed`
-/

namespace SqlGateway

open Act (Blames)

------------------------------------------------------------
-- Operations of a Session
------------------------------------------------------------

namespace Command

/- The category that a command puts failures of drivers
   in. -/
def category (engine : Engine) : Command → Category
  | connect _ => .connection
  | disconnect => .connection
  | switchDatabase _ =>
      match engine with
      | .sqlServer => .query
      | .postgres => .connection
  | _ => .query

/- How the failure of a command relates to what the drivers
   of an engine raised. -/
def blame
    (engine : Engine)
    (command : Command) : List Raised → Failure → Prop :=
  match command, engine with
  | connect _, _ => OpeningBlame
  | switchDatabase _, .postgres => OpeningBlame
  | _, _ => Handled (command.category engine)

/- In any state of a session, the failure of a command is
   blamed as its engine has it. -/
theorem onSession_blamed
    (command : Command)
    (s : Session)
    (w : World) :
    (command.onSession.run s w).Blamed
      (command.blame s.engine) w := by
  cases command with
  | connect config =>
      exact Session.connect_blames config s w
  | disconnect => exact Session.disconnect_blames s w
  | switchDatabase database =>
      cases hConnected : s.connected with
      | false =>
          have hOwn : (blame s.engine
              (switchDatabase database)) [] .notConnected := by
            unfold blame
            cases s.engine with
            | sqlServer => exact .own _
            | postgres => exact .handled (.own _)
          have hOut :
              (switchDatabase database).onSession.run s w =
                ⟨.error .notConnected, s, w⟩ :=
            Session.run_switchDatabase_of_closed database
              hConnected w
          rw [hOut]
          exact .ofError rfl (List.append_nil w.raised).symm
            hOwn
      | true =>
          have hOut :=
            Session.run_switchDatabase database hConnected w
          unfold onSession blame
          rw [hOut]
          cases s.engine with
          | sqlServer =>
              exact Session.switchInPlace_blames database s w
          | postgres =>
              exact Session.reopen_blames database s w
  | listDatabases =>
      exact Session.listDatabases_blames.discard s w
  | listTables =>
      exact Session.listTables_blames.discard s w
  | describeTable table schema? =>
      exact (Session.describeTable_blames table
        schema?).discard s w
  | executeQuery sql limit =>
      exact (Session.executeQuery_blames sql limit).discard
        s w

end Command

------------------------------------------------------------
-- Tools
------------------------------------------------------------

theorem shownState_blames
    {blame : List Raised → Failure → Prop} :
    Blames blame shownState := by
  unfold shownState
  exact .state_bind fun c => .pure _

theorem permit_blames
    (mode : Statement.QueryMode)
    (sql : String) :
    Blames OperationBlame
      (permit mode sql : Act Connections Unit) := by
  unfold permit
  cases Statement.authorize mode sql.toList with
  | ok _ => exact .pure _
  | error refusal =>
      have hFail :
          Blames OperationBlame
            (Act.fail (.refused refusal) :
              Act Connections Unit) :=
        .fail (.own _)
      exact .ite (.bind (.log _ _) fun _ => hFail) hFail

namespace Request

/- The failure of a request is the one of its operation. -/
theorem run_blames
    (mode : Statement.QueryMode)
    (request : Request) :
    Blames OperationBlame (request.run mode) := by
  cases request with
  | connect params =>
      refine .bind ?_ fun _ =>
        .bind shownState_blames fun _ => .pure _
      exact (Connections.connect_blames _).mono
        fun _ _ => .ofOpening
  | disconnect =>
      refine .state_bind fun c => .bind ?_ fun _ => .pure _
      exact Connections.disconnect_blames.mono
        fun _ _ => .ofClosing
  | status => exact .bind shownState_blames fun _ => .pure _
  | listDatabases =>
      refine .bind ?_ fun names => .pure _
      exact Connections.active_blames .own
        (Session.listDatabases_blames.mono
          fun _ _ => .ofQuery)
  | switchDatabase params =>
      refine .bind ?_ fun _ =>
        .bind shownState_blames fun _ => .pure _
      exact Connections.active_blames .own
        (Session.switchDatabase_blames params.database)
  | listTables =>
      refine .bind ?_ fun tables => .pure _
      exact Connections.active_blames .own
        (Session.listTables_blames.mono fun _ _ => .ofQuery)
  | describeTable params =>
      refine .bind ?_ fun columns => .pure _
      exact Connections.active_blames .own
        ((Session.describeTable_blames _ _).mono
          fun _ _ => .ofQuery)
  | executeQuery params =>
      refine .bind (permit_blames _ _) fun _ => ?_
      refine .bind ?_ fun result => .pure _
      exact Connections.active_blames .own
        ((Session.executeQuery_blames _ _).mono
          fun _ _ => .ofQuery)

/-
  A request that fails is answered with a report of its
  failure, unless that ends the run; and the failure is
  blamed on what the drivers raised.
-/
theorem answer_blamed
    (mode : Statement.QueryMode)
    (request : Request)
    (c : Connections)
    (w : World) :
    let out := (request.answer mode).run c w
    ∃ raised : List Raised,
      out.world.raised = w.raised ++ raised ∧
        (raised = [] ∨
          ∃ e, OperationBlame raised e ∧
            out.result =
              if e.endsRun then
                .error e
              else
                .ok e.report) := by
  intro out
  have hBlamed := run_blames mode request c w
  cases hResult : ((request.run mode).run c w).result with
  | ok text =>
      have hOut : out = (request.run mode).run c w :=
        Act.run_rescue_of_ok hResult
      have hRaised := hBlamed.raised_of_ok hResult
      refine ⟨[], ?_, .inl rfl⟩
      rw [hOut, hRaised, List.append_nil]
  | error e =>
      rcases hBlamed.exists_of_error hResult with
        ⟨raised, hRaised, hBlame⟩
      have hOut : out = _ :=
        Act.run_rescue_of_error hResult
      refine ⟨raised, ?_, .inr ⟨e, hBlame, ?_⟩⟩
      · rw [hOut]
        split
        · exact hRaised
        · unfold reportFailure
          split
          · exact hRaised
          · exact hRaised
      · rw [hOut]
        split
        · exact hResult
        · unfold reportFailure
          split
          · rfl
          · rfl

end Request

------------------------------------------------------------
-- Failures of Drivers
------------------------------------------------------------

/- The failure of a command is wrapped in the category of
   the command, or escapes. -/
theorem Command.wrapped_or_escapes
    {command : Command}
    {engine : Engine}
    {first : Raised}
    {rest : List Raised}
    {e : Failure}
    (hBlame : command.blame engine (first :: rest) e) :
    (FailedOnce first rest ∧
        e.category? = some (command.category engine) ∧
        e.cause? = some first.failure) ∨
      Escapes first rest e := by
  cases command with
  | connect config =>
      exact OpeningBlame.wrapped_or_escapes hBlame
  | switchDatabase database =>
      cases engine with
      | sqlServer => exact Handled.wrapped_or_escapes hBlame
      | postgres =>
          exact OpeningBlame.wrapped_or_escapes hBlame
  | _ => exact Handled.wrapped_or_escapes hBlame

/-
  What becomes of the failures that drivers raise in an
  operation of a session, or while a request is answered.

  The operation fails.  If a driver failed once only, in
  another call than the making of a PostgreSQL pool and not
  to end the run, the failure is wrapped, with the one that
  was raised as its cause, and a tool reports it under its
  code.  Otherwise what was raised last escapes as it is.
-/
theorem driver_failures_blamed
    (command : Command)
    (s : Session)
    (mode : Statement.QueryMode)
    (request : Request)
    (c : Connections)
    (w : World) :
    (let out := command.onSession.run s w
      ∀ (first : Raised) (rest : List Raised),
        out.world.raised = w.raised ++ first :: rest →
          ∃ e, out.result = .error e ∧
            (FailedOnce first rest →
              e.category? =
                  some (command.category s.engine) ∧
                e.cause? = some first.failure) ∧
            (¬ FailedOnce first rest →
              Escapes first rest e)) ∧
      let out := (request.answer mode).run c w
      ∀ (first : Raised) (rest : List Raised),
        out.world.raised = w.raised ++ first :: rest →
          ∃ e,
            out.result =
                (if e.endsRun then
                  .error e
                else
                  .ok e.report) ∧
              (FailedOnce first rest →
                e.cause? = some first.failure ∧
                  (e.code? = some "CONNECTION_ERROR" ∨
                    e.code? = some "QUERY_ERROR")) ∧
              (¬ FailedOnce first rest →
                Escapes first rest e) := by
  constructor
  · intro out first rest hRaised
    rcases command.onSession_blamed s w with
      ⟨raised, hAll, hResult⟩
    have hSame : raised = first :: rest :=
      List.append_cancel_left (hAll.symm.trans hRaised)
    rw [hSame] at hResult
    cases hOut : (command.onSession.run s w).result with
    | ok a =>
        rw [hOut] at hResult
        cases hResult
    | error e =>
        rw [hOut] at hResult
        refine ⟨e, rfl, ?_⟩
        rcases Command.wrapped_or_escapes hResult with
          ⟨hOnce, hWrapped⟩ | hEscapes
        · exact ⟨fun _ => hWrapped, fun h => absurd hOnce h⟩
        · have hNot := hEscapes.not_failedOnce
          exact ⟨fun h => absurd h hNot, fun _ => hEscapes⟩
  · intro out first rest hRaised
    rcases request.answer_blamed mode c w with
      ⟨raised, hAll, hResult⟩
    have hSame : raised = first :: rest :=
      List.append_cancel_left (hAll.symm.trans hRaised)
    rw [hSame] at hResult
    rcases hResult with hNone | ⟨e, hBlame, hAnswer⟩
    · cases hNone
    · refine ⟨e, hAnswer, ?_⟩
      rcases hBlame.coded_or_escapes with
        ⟨hOnce, hCoded⟩ | hEscapes
      · exact ⟨fun _ => hCoded, fun h => absurd hOnce h⟩
      · have hNot := hEscapes.not_failedOnce
        exact ⟨fun h => absurd h hNot, fun _ => hEscapes⟩

/- A session for SQL Server, not yet open. -/
def closedSession : Session where
  engine := .sqlServer
  settings :=
    { queryMode := .safe
      transport := "stdio"
      httpHost := "127.0.0.1"
      httpPort := 8000
      poolMaxSize := 10
      odbcDriver := "ODBC Driver 18 for SQL Server"
      logLevel := "INFO" }

/- No connection can be taken, and closing fails as well. -/
def failingTwice : World where
  script :=
    { acquireError := .everywhere <|
        some (.foreign .odbcDriver "OperationalError"
          [.text "first"])
      closeError := .everywhere <|
        some (.foreign .odbcDriver "Error"
          [.text "second"]) }

/- Not every failure of a driver is wrapped: of two, the
   second is left as it is. -/
theorem failure_escapes_while_closing :
    ¬ ∀ (command : Command) (s : Session) (w : World),
        let out := command.onSession.run s w
        ∀ (first : Raised) (rest : List Raised),
          out.world.raised = w.raised ++ first :: rest →
            ∃ e, out.result = .error e ∧
              e.category? =
                some (command.category s.engine) ∧
              e.cause? = some first.failure := by
  intro hClaim
  rcases hClaim
      (.connect { engine := "mssql", server := .text "db" })
      closedSession failingTwice
      ⟨.acquire, .foreign .odbcDriver "OperationalError"
        [.text "first"]⟩
      [⟨.closePool, .foreign .odbcDriver "Error"
        [.text "second"]⟩] rfl with
    ⟨e, hError, hCategory, -⟩
  have hSecond :
      e = .foreign .odbcDriver "Error" [.text "second"] :=
    (Except.error.inj hError).symm
  rw [hSecond] at hCategory
  cases hCategory

end SqlGateway
