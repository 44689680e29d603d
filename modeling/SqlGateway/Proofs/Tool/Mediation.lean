import SqlGateway.Proofs.Connections.Sending
import SqlGateway.Proofs.Identifier.Delimited
import SqlGateway.Proofs.Statement.RowLimit
import SqlGateway.Proofs.Tool.Checked
import SqlGateway.Server

/-
  This file shows that the gateway stands between its
  clients and the drivers: whatever calls come in, a driver
  is sent no text but the fixed ones, those that point a
  connection at a database, and capped statements that the
  query mode permits.

  Key definitions include:
    * `QueryParams.SentAs`
    * `Mediated`

  Main declarations:
    * `Request.answer_sends`
    * `Request.answer_refused`
    * `statements_mediated`
-/

namespace SqlGateway

open Act (Keeps)
open Statement

------------------------------------------------------------
-- Mediated Statements
------------------------------------------------------------

/-
  What the text that is sent to an engine owes to the
  statement of a client: it is that statement, which the
  mode permits, capped at a limit within bounds, and capping
  left its class as it was when it was permitted.
-/
structure QueryParams.SentAs
    (params : QueryParams)
    (mode : QueryMode)
    (engine : Engine)
    (text : String) : Prop where
  capped :
    text =
      String.ofList
        (capRows engine params.query.toList params.limit)
  permitted : authorize mode params.query.toList = .ok ()
  limit_pos : 1 ≤ params.limit
  limit_le : params.limit ≤ 1000
  sameClass :
    mode ≠ .full →
      classify text.toList =
        classify (Text.trim Text.isBlank params.query.toList)
  reads_of_safe :
    mode = .safe → classify text.toList = some .read
  class_of_write :
    mode = .write →
      classify text.toList = some .read ∨
        classify text.toList = some .write

/-
  The texts that may be sent while a request is served, each
  with the values that go with it; the engine is that of the
  session that is open.
-/
inductive Mediated
    (mode : QueryMode)
    (engine? : Option Engine) :
    Request → String → List Value → Prop where
  | probe {request : Request} :
      Mediated mode engine? request CatalogQuery.probe []
  | use
      {request : Request}
      {text : String}
      (hPoints : Session.PointsAt text) :
      Mediated mode engine? request text []
  | databases
      {engine : Engine}
      (hEngine : engine? = some engine) :
      Mediated mode engine? .listDatabases
        (CatalogQuery.listDatabases engine) []
  | tables
      {engine : Engine}
      (hEngine : engine? = some engine) :
      Mediated mode engine? .listTables
        (CatalogQuery.listTables engine) []
  | columns
      {engine : Engine}
      {params : DescribeParams}
      (hEngine : engine? = some engine) :
      Mediated mode engine? (.describeTable params)
        (CatalogQuery.describeTable engine)
        (CatalogQuery.describeParameters
          (Session.schemaFor engine params.schemaName)
          params.table engine)
  | query
      {engine : Engine}
      {params : QueryParams}
      {text : String}
      (hEngine : engine? = some engine)
      (hSent : params.SentAs mode engine text) :
      Mediated mode engine? (.executeQuery params) text []

namespace Mediated

variable {mode : QueryMode}
variable {engine? : Option Engine}
variable {request : Request}

theorem ofUse
    (text : String)
    (hUse : Session.IsUse text) :
    Mediated mode engine? request text [] :=
  .use (Session.pointsAt_of_isUse hUse)

theorem carries :
    (Progress.sending
      (Mediated mode engine? request)).Carries
        (Mediated mode engine? request) :=
  Progress.sending_carries ofUse

end Mediated

/- A whole limit caps a statement without fail. -/
theorem Session.cappedStatement_int
    (engine : Engine)
    (sql : String)
    (n : Int) :
    cappedStatement engine sql (.int n) =
      .ok (String.ofList (capRows engine sql.toList n)) := by
  unfold cappedStatement capRows
  cases rowCap? engine sql.toList with
  | none => simp only [String.ofList_toList]
  | some cap => rfl

/-
  A permitted statement is sent as it should be.  The class
  that the mode saw is that of the statement without blanks
  around it, and capping does not change it.
-/
theorem QueryParams.sentAs
    {params : QueryParams}
    {mode : QueryMode}
    (engine : Engine)
    (hPermitted :
      authorize mode params.query.toList = .ok ())
    (hLimit : 1 ≤ params.limit ∧ params.limit ≤ 1000) :
    params.SentAs mode engine
      (String.ofList
        (capRows engine params.query.toList
          params.limit)) := by
  have hClass :
      ∀ found, classify (Text.trim Text.isBlank
            params.query.toList) = some found →
          classify (String.ofList
              (capRows engine params.query.toList
                params.limit)).toList =
            some found := by
    intro found hFound
    rw [String.toList_ofList]
    exact classify_capRows engine params.limit hFound
  constructor
  · rfl
  · exact hPermitted
  · exact hLimit.1
  · exact hLimit.2
  · intro hMode
    rcases exists_class_of_authorize hMode hPermitted with
      ⟨found, hFound, -⟩
    rw [hClass found hFound, hFound]
  · rintro rfl
    rcases exists_class_of_authorize (by simp) hPermitted
      with ⟨found, hFound, hAllowed⟩
    rw [hClass found hFound]
    cases found with
    | read => rfl
    | write => cases hAllowed
    | ddl => cases hAllowed
  · rintro rfl
    rcases exists_class_of_authorize (by simp) hPermitted
      with ⟨found, hFound, hAllowed⟩
    rw [hClass found hFound]
    cases found with
    | read => exact .inl rfl
    | write => exact .inr rfl
    | ddl => cases hAllowed

------------------------------------------------------------
-- Requests
------------------------------------------------------------

/- A refused statement fails, and no driver is called. -/
theorem permit_refused
    {σ : Type}
    {mode : QueryMode}
    {sql : String}
    {refusal : Refusal}
    (hRefused : authorize mode sql.toList = .error refusal)
    (s : σ)
    (w : World) :
    let out := (permit mode sql : Act σ Unit).run s w
    out.result = .error (.refused refusal) ∧
      out.state = s ∧ out.world.events = w.events := by
  intro out
  simp only [out, permit, hRefused, refuse]
  split
  · exact ⟨rfl, rfl, rfl⟩
  · exact ⟨rfl, rfl, rfl⟩

/- What follows the permission is known to be permitted. -/
theorem permit_bind_keeps
    {σ α : Type}
    {inv : σ → Prop}
    {progress : Progress}
    {mode : QueryMode}
    {sql : String}
    {next : Unit → Act σ α}
    (hNext : authorize mode sql.toList = .ok () →
      Keeps inv progress (next ())) :
    Keeps inv progress (permit mode sql >>= next) := by
  cases hPermitted : authorize mode sql.toList with
  | ok _ =>
      have hPermit : permit mode sql = (pure () : Act σ Unit) := by
        unfold permit
        rw [hPermitted]
      rw [hPermit]
      exact hNext hPermitted
  | error refusal =>
      intro s w hInv
      have hRefuse :
          Keeps inv progress (permit mode sql : Act σ Unit) := by
        unfold permit refuse
        rw [hPermitted]
        exact .ite (.bind (.log _ _) fun _ => .fail _) (.fail _)
      rcases permit_refused hPermitted s w with ⟨hFailed, -⟩
      rw [Act.run_bind_of_error hFailed]
      exact hRefuse s w hInv

theorem answering_keeps
    {σ : Type}
    {inv : σ → Prop}
    {progress : Progress}
    {call : Act σ String}
    (hCall : Keeps inv progress call) :
    Keeps inv progress (answering call) := by
  unfold answering reportFailure
  refine .rescue hCall fun e => .ite ?_ (.pure _)
  exact .bind (.log _ _) fun _ => .pure _

theorem shownState_keeps
    {inv : Connections → Prop}
    {progress : Progress} :
    Keeps inv progress shownState := by
  unfold shownState
  exact .state_bind fun c _ => .pure _

namespace Request

variable {mode : QueryMode}

/- A request opens, closes or switches a session. -/
def movesSession : Request → Bool
  | connect _ => true
  | disconnect => true
  | switchDatabase _ => true
  | _ => false

/- A request that works on the catalog or executes a
   statement sends what is mediated, and leaves the holder
   alone. -/
theorem run_keeps
    {request : Request}
    (c : Connections)
    (hLimit : ∀ params, request = .executeQuery params →
      1 ≤ params.limit ∧ params.limit ≤ 1000)
    (hReads : request.movesSession = false) :
    Keeps (· = c)
      (Progress.sending
        (Mediated mode c.connectionState.engine request))
      (request.run mode) := by
  cases request with
  | connect params => cases hReads
  | disconnect => cases hReads
  | switchDatabase params => cases hReads
  | status => exact .bind shownState_keeps fun _ => .pure _
  | listDatabases =>
      refine .bind ?_ fun names => .pure _
      apply Connections.active_keeps_of_engine
      intro session hEngine
      apply Session.listDatabases_keeps Mediated.carries
      rintro _ rfl
      exact .databases hEngine
  | listTables =>
      refine .bind ?_ fun tables => .pure _
      apply Connections.active_keeps_of_engine
      intro session hEngine
      apply Session.listTables_keeps Mediated.carries
      rintro _ rfl
      exact .tables hEngine
  | describeTable params =>
      refine .bind ?_ fun columns => .pure _
      apply Connections.active_keeps_of_engine
      intro session hEngine
      apply Session.describeTable_keeps Mediated.carries
      rintro _ rfl
      exact .columns hEngine
  | executeQuery params =>
      apply permit_bind_keeps
      intro hPermitted
      refine .bind ?_ fun result => .pure _
      apply Connections.active_keeps_of_engine
      intro session hEngine
      apply Session.executeQuery_keeps Mediated.carries
      rintro _ rfl text hCapped
      rw [Session.cappedStatement_int] at hCapped
      rw [← Except.ok.inj hCapped]
      exact .query hEngine
        (params.sentAs _ hPermitted (hLimit params rfl))

/- A request that opens, closes or switches a session sends
   what is mediated, and leaves the settings alone. -/
theorem run_keeps_settings
    {request : Request}
    (engine? : Option Engine)
    (settings : Settings)
    (hMoves : request.movesSession = true) :
    Keeps (fun c => c.settings = settings)
      (Progress.sending (Mediated mode engine? request))
      (request.run mode) := by
  cases request with
  | connect params =>
      refine .bind ?_ fun _ => ?_
      · exact Connections.connect_sends Mediated.ofUse
          .probe params.toConfig
      · exact .bind shownState_keeps fun _ => .pure _
  | disconnect =>
      refine .state_bind fun c _ => ?_
      exact .bind Connections.disconnect_sends
        fun _ => .pure _
  | switchDatabase params =>
      refine .bind ?_ fun _ => ?_
      · exact Connections.active_sends
          (Session.switchDatabase_sends Mediated.ofUse
            .probe params.database)
      · exact .bind shownState_keeps fun _ => .pure _
  | _ => cases hMoves

/-
  Whatever comes of a request, it sends what is mediated,
  and leaves the settings alone.
-/
theorem answer_sends
    {request : Request}
    (hLimit : ∀ params, request = .executeQuery params →
      1 ≤ params.limit ∧ params.limit ≤ 1000)
    (c : Connections)
    (w : World) :
    let out := (request.answer mode).run c w
    out.state.settings = c.settings ∧
      (Progress.sending
        (Mediated mode c.connectionState.engine request)).Rel
          w out.world := by
  intro out
  cases hMoves : request.movesSession with
  | true =>
      have hKeeps :
          Keeps (fun other => other.settings = c.settings)
            (Progress.sending
              (Mediated mode c.connectionState.engine request))
            (request.run mode) :=
        run_keeps_settings _ _ hMoves
      exact answering_keeps hKeeps c w rfl
  | false =>
      have hKeeps :
          Keeps (· = c)
            (Progress.sending
              (Mediated mode c.connectionState.engine request))
            (request.run mode) :=
        run_keeps c hLimit hMoves
      have hOut := answering_keeps hKeeps c w rfl
      exact ⟨congrArg Connections.settings hOut.1, hOut.2⟩

/-
  A statement that the mode refuses is answered with a
  report.  No driver is called, and nothing changes.
-/
theorem answer_refused
    {params : QueryParams}
    {refusal : Refusal}
    (hRefused :
      authorize mode params.query.toList = .error refusal)
    (c : Connections)
    (w : World) :
    let out := ((executeQuery params).answer mode).run c w
    out.result = .ok (Failure.refused refusal).report ∧
      out.state = c ∧ out.world.events = w.events := by
  intro out
  rcases permit_refused hRefused c w with
    ⟨hFailed, hState, hEvents⟩
  have hRun :
      ((executeQuery params).run mode).run c w =
        ⟨.error (.refused refusal),
          ((permit mode params.query).run c w).state,
          ((permit mode params.query).run c w).world⟩ :=
    Act.run_bind_of_error hFailed
  have hOut :
      out =
        (reportFailure (.refused refusal)).run
          ((permit mode params.query).run c w).state
          ((permit mode params.query).run c w).world := by
    have hError :
        (((executeQuery params).run mode).run c w).result =
          .error (.refused refusal) := by
      rw [hRun]
    unfold out answer answering
    rw [Act.run_rescue_of_error hError, hRun]
    rfl
  rw [hOut]
  unfold reportFailure
  split
  · exact ⟨rfl, hState, hEvents⟩
  · exact ⟨rfl, hState, hEvents⟩

end Request

------------------------------------------------------------
-- Calls
------------------------------------------------------------

/- A call with parameters that were accepted is the answer to
   its request. -/
theorem run_callTool_of_request
    {name : String}
    {given : Fields}
    {request : Request}
    (hCall : Request.ofCall name given = .ok request)
    (c : Connections)
    (w : World) :
    (callTool name given).run c w =
      (request.answer c.settings.queryMode >>= fun text =>
        (pure (.ok text) :
          Act Connections (Except Rejection String))).run
        c w := by
  unfold callTool
  rw [hCall]
  exact Act.run_state_bind _ c w

theorem run_callTool_of_ok
    {name : String}
    {given : Fields}
    {request : Request}
    (hCall : Request.ofCall name given = .ok request)
    (c : Connections)
    (w : World) :
    let out := (callTool name given).run c w
    let answered :=
      (request.answer c.settings.queryMode).run c w
    out.state = answered.state ∧
      out.world = answered.world := by
  intro out answered
  have hOut := run_callTool_of_request hCall c w
  cases hResult : answered.result with
  | ok text =>
      rw [Act.run_bind_of_ok hResult] at hOut
      simp only [out, hOut]
      exact ⟨rfl, rfl⟩
  | error e =>
      rw [Act.run_bind_of_error hResult] at hOut
      simp only [out, hOut]
      exact ⟨rfl, rfl⟩

/- A call that is turned away leaves all as it was. -/
theorem run_callTool_of_error
    {name : String}
    {given : Fields}
    {rejection : Rejection}
    (hCall : Request.ofCall name given = .error rejection)
    (c : Connections)
    (w : World) :
    (callTool name given).run c w =
      ⟨.ok (.error rejection), c, w⟩ := by
  unfold callTool
  rw [hCall]
  rfl

/- A call sends what is mediated for its request, and leaves
   the settings alone. -/
theorem runCall_sends
    (call : ToolCall)
    (c : Connections)
    (w : World) :
    let out := runCall call c w
    out.2.1.settings = c.settings ∧
      ∀ text parameters,
        .execute text parameters ∈ out.2.2.events →
          ∃ request,
            Request.ofCall call.tool call.given =
                .ok request ∧
              Mediated c.settings.queryMode
                c.connectionState.engine request text
                (parameters.getD []) := by
  intro out
  cases hCall : Request.ofCall call.tool call.given with
  | error rejection =>
      have hRun := run_callTool_of_error hCall c
        (w.step call.script)
      have hState : out.2.1 = c := congrArg Outcome.state hRun
      have hWorld : out.2.2 = w.step call.script :=
        congrArg Outcome.world hRun
      rw [hState, hWorld]
      refine ⟨rfl, ?_⟩
      intro text parameters hMem
      cases hMem
  | ok request =>
      have hLimit : ∀ params,
          request = .executeQuery params →
            1 ≤ params.limit ∧ params.limit ≤ 1000 := by
        rintro params rfl
        exact Request.limit_bounds_of_ofCall hCall
      rcases @Request.answer_sends c.settings.queryMode
          request hLimit c (w.step call.script) with
        ⟨hSettings, events, hEvents, hMediated⟩
      rcases run_callTool_of_ok hCall c (w.step call.script)
        with ⟨hState, hWorld⟩
      constructor
      · rw [← hSettings, ← hState]
        rfl
      · intro text parameters hMem
        refine ⟨request, rfl, ?_⟩
        have hSame : out.2.2.events = events := by
          have hAll := (congrArg World.events hWorld).trans
            hEvents
          exact hAll
        rw [hSame] at hMem
        exact hMediated text parameters hMem

/- The settings stay, whatever calls come in. -/
theorem runCalls_settings
    (calls : List ToolCall)
    (c : Connections)
    (w : World) :
    (runCalls calls c w).connections.settings =
      c.settings := by
  induction calls generalizing c w with
  | nil => rfl
  | cons call calls ih =>
      have hSettings := (runCall_sends call c w).1
      unfold runCalls
      split
      · rename_i entry c' w' hCall
        rw [hCall] at hSettings
        exact (ih c' w').trans hSettings
      · rename_i e c' w' hCall
        rw [hCall] at hSettings
        exact hSettings

/-
  Under any settings, after any calls and whatever the
  drivers do, a call sends no text but those that are
  mediated for the request it makes.  And if its statement
  is refused, no driver is called and nothing changes.
-/
theorem statements_mediated
    (settings : Settings)
    (before : List ToolCall)
    (call : ToolCall) :
    let held := runCalls before { settings } {}
    let out := runCall call held.connections held.world
    (∀ text parameters,
        .execute text parameters ∈ out.2.2.events →
          ∃ request,
            Request.ofCall call.tool call.given =
                .ok request ∧
              Mediated settings.queryMode
                held.connections.connectionState.engine
                request text (parameters.getD [])) ∧
      ∀ params refusal,
        Request.ofCall call.tool call.given =
            .ok (.executeQuery params) →
          authorize settings.queryMode
                params.query.toList = .error refusal →
            out.2.2.events = [] ∧
              out.2.1 = held.connections := by
  intro held out
  have hSettings : held.connections.settings = settings :=
    runCalls_settings before { settings } {}
  constructor
  · have hSends :=
      (runCall_sends call held.connections held.world).2
    rw [hSettings] at hSends
    exact hSends
  · intro params refusal hCall hRefused
    rw [← hSettings] at hRefused
    rcases Request.answer_refused hRefused held.connections
        (held.world.step call.script) with
      ⟨-, hState, hEvents⟩
    rcases run_callTool_of_ok hCall held.connections
        (held.world.step call.script) with
      ⟨hAfter, hWorld⟩
    constructor
    · exact (congrArg World.events hWorld).trans hEvents
    · exact hAfter.trans hState

end SqlGateway
