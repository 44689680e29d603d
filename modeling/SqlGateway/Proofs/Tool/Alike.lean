import SqlGateway.Proofs.Connections.Alike
import SqlGateway.Server

/-
  This file compares two servers side by side that answer
  calls under query modes of their own.  Where their calls
  make requests that are alike, and no mode refuses what the
  other permits, they call the drivers alike, log the same,
  and answer the same but for what is told of the mode, and
  of calls that are turned away.

  Key definitions include:
    * `ExceptAlike`
    * `AnswerAlike`
    * `Request.Alike`
    * `CallRecord.Alike`
    * `CallsRun.Alike`

  Main declarations:
    * `Request.run_alike`
    * `runCall_alike`
    * `runCalls_cons_alike`
-/

namespace SqlGateway

open Statement (QueryMode authorize)

------------------------------------------------------------
-- Answers
------------------------------------------------------------

/- Two results are values that are related, or failures that
   are. -/
inductive ExceptAlike
    {ε α β : Type}
    (X : ε → ε → Prop)
    (V : α → β → Prop) :
    Except ε α → Except ε β → Prop where
  | ok
      {a : α}
      {b : β}
      (hValues : V a b) :
      ExceptAlike X V (.ok a) (.ok b)
  | error
      {e e' : ε}
      (hFailures : X e e') :
      ExceptAlike X V (.error e) (.error e')

namespace ExceptAlike

variable {ε α β γ δ : Type}
variable {X : ε → ε → Prop}
variable {V : α → β → Prop}

theorem map
    {U : γ → δ → Prop}
    {f : α → γ}
    {g : β → δ}
    {result : Except ε α}
    {result' : Except ε β}
    (hAlike : ExceptAlike X V result result')
    (hMap : ∀ a b, V a b → U (f a) (g b)) :
    ExceptAlike X U (result.map f) (result'.map g) := by
  cases hAlike with
  | ok hValues => exact .ok (hMap _ _ hValues)
  | error hFailures => exact .error hFailures

theorem mono
    {U : α → β → Prop}
    {result : Except ε α}
    {result' : Except ε β}
    (hAlike : ExceptAlike X V result result')
    (hMono : ∀ a b, V a b → U a b) :
    ExceptAlike X U result result' := by
  cases hAlike with
  | ok hValues => exact .ok (hMono _ _ hValues)
  | error hFailures => exact .error hFailures

/- Where the failures are the same, nothing but values may
   differ. -/
theorem resultAlike
    {result : Except ε α}
    {result' : Except ε β}
    (hAlike : ExceptAlike (· = ·) V result result') :
    ResultAlike V result result' := by
  cases hAlike with
  | ok hValues => exact .ok hValues
  | error hFailures => exact hFailures ▸ .error _

end ExceptAlike

/- Fields with what they tell of the query mode told of
   another. -/
def Fields.underMode
    (mode : QueryMode)
    (fields : Fields) : Fields :=
  fields.map fun field =>
    if field.1 = "queryMode" then
      (field.1, .text mode.name)
    else if field.1 = "queryModeDescription" then
      (field.1, .text mode.description)
    else
      field

/- Two answers that are the same but for what they tell of
   the query mode. -/
inductive AnswerAlike
    (lo hi : QueryMode) : String → String → Prop where
  | same (text : String) : AnswerAlike lo hi text text
  | success (fields : Fields) :
      AnswerAlike lo hi
        (successAnswer (fields.underMode lo))
        (successAnswer (fields.underMode hi))

theorem AnswerAlike.eq
    {mode : QueryMode}
    {text text' : String}
    (hAlike : AnswerAlike mode mode text text') :
    text = text' := by
  cases hAlike with
  | same => rfl
  | success fields => rfl

theorem ConnectionState.underMode_toFields
    (shown : ConnectionState)
    (mode : QueryMode) :
    shown.toFields.underMode mode = shown.toFields := by
  simp [ConnectionState.toFields, Fields.underMode]

/- A result tells of the mode in one field, if at all. -/
theorem QueryResult.underMode_put
    (result : QueryResult)
    (v : Value)
    (mode : QueryMode) :
    (Fields.put result.toFields "queryMode" v).underMode
        mode =
      Fields.put result.toFields "queryMode"
        (.text mode.name) := by
  rcases result with ⟨columns, rows, rowCount, affectedRows⟩
  cases affectedRows with
  | none =>
      simp [QueryResult.toFields, Fields.put,
        Fields.underMode]
  | some n =>
      simp [QueryResult.toFields, Fields.put,
        Fields.underMode]

theorem QueryResult.answer_alike
    (result : QueryResult)
    (lo hi : QueryMode)
    (format : ResponseFormat) :
    AnswerAlike lo hi (result.answer lo.name format)
      (result.answer hi.name format) := by
  cases format with
  | markdown => exact .same _
  | json =>
      have hFields : AnswerAlike lo hi _ _ :=
        .success (Fields.put result.toFields "queryMode" .null)
      rw [result.underMode_put, result.underMode_put]
        at hFields
      exact hFields

------------------------------------------------------------
-- Requests
------------------------------------------------------------

/- Two modes judge a statement alike: they are the same, or
   both permit it. -/
def JudgedAlike
    (lo hi : QueryMode)
    (sql : String) : Prop :=
  lo = hi ∨
    authorize lo sql.toList = .ok () ∧
      authorize hi sql.toList = .ok ()

/- Two requests that differ at most in configurations that
   are alike. -/
inductive Request.Alike
    (like : Likeness)
    (lo hi : QueryMode) : Request → Request → Prop where
  | connect
      {params params' : ConnectParams}
      (hEngine : params.engine = params'.engine)
      (hConfigs :
        like.Configs params.engine params.toConfig
          params'.toConfig) :
      Request.Alike like lo hi (.connect params)
        (.connect params')
  | disconnect :
      Request.Alike like lo hi .disconnect .disconnect
  | status : Request.Alike like lo hi .status .status
  | listDatabases :
      Request.Alike like lo hi .listDatabases .listDatabases
  | switchDatabase
      {params : SwitchParams}
      (hName : like.Names params.database) :
      Request.Alike like lo hi (.switchDatabase params)
        (.switchDatabase params)
  | listTables :
      Request.Alike like lo hi .listTables .listTables
  | describeTable (params : DescribeParams) :
      Request.Alike like lo hi (.describeTable params)
        (.describeTable params)
  | executeQuery
      {params : QueryParams}
      (hJudged : JudgedAlike lo hi params.query) :
      Request.Alike like lo hi (.executeQuery params)
        (.executeQuery params)

/- A request is like itself where its configuration, the
   database it switches to and the judgement of its
   statement are. -/
theorem Request.alike_self
    {like : Likeness}
    {lo hi : QueryMode}
    {request : Request}
    (hRefl : ∀ engine config,
      like.Configs engine config config)
    (hName : ∀ params, request = .switchDatabase params →
      like.Names params.database)
    (hJudged : ∀ params, request = .executeQuery params →
      JudgedAlike lo hi params.query) :
    request.Alike like lo hi request := by
  cases request with
  | connect params => exact .connect rfl (hRefl _ _)
  | disconnect => exact .disconnect
  | status => exact .status
  | listDatabases => exact .listDatabases
  | switchDatabase params =>
      exact .switchDatabase (hName params rfl)
  | listTables => exact .listTables
  | describeTable params => exact .describeTable params
  | executeQuery params =>
      exact .executeQuery (hJudged params rfl)

/- Two actions of holders that answer alike. -/
abbrev AnswersAlike
    (like : Likeness)
    (lo hi : QueryMode)
    (act act' : Act Connections String) : Prop :=
  Act.Alike like.Calls (Connections.Alike like lo hi)
    (AnswerAlike lo hi) act act'

variable {like : Likeness}
variable {lo hi : QueryMode}

theorem shownState_alike :
    Connections.ActAlike like lo hi shownState
      shownState := by
  unfold shownState
  refine .state_bind fun c c' hAlike => ?_
  exact .pure hAlike.connectionState_eq

/- Statements that are judged alike are admitted alike. -/
theorem permit_alike
    {sql : String}
    (hJudged : JudgedAlike lo hi sql) :
    Connections.ActAlike like lo hi (permit lo sql)
      (permit hi sql) := by
  rcases hJudged with rfl | ⟨hLow, hHigh⟩
  · unfold permit refuse
    split
    · exact .pure rfl
    · refine .ite (.bind_same (.log _ _) fun _ => ?_) ?_
      · exact .fail _
      · exact .fail _
  · unfold permit
    rw [hLow, hHigh]
    exact .pure rfl

namespace Request

theorem ofName?_toConfig (params : ConnectParams) :
    Engine.ofName? params.toConfig.engine =
      some params.engine := by
  change Engine.ofName? params.engine.name = _
  cases params.engine with
  | sqlServer => rfl
  | postgres => rfl

theorem run_alike
    {request request' : Request}
    (hAlike : request.Alike like lo hi request') :
    AnswersAlike like lo hi (request.run lo)
      (request'.run hi) := by
  cases hAlike with
  | connect hEngine hConfigs =>
      rename_i params params'
      refine .bind_same ?_ fun _ => ?_
      · refine Connections.connect_alike ?_ ?_
        · exact congrArg Engine.name hEngine
        · intro engine hName
          rw [ofName?_toConfig] at hName
          exact Option.some.inj hName ▸ hConfigs
      · have hServer : params.server = params'.server :=
          Value.text.inj (like.server hConfigs)
        refine .bind_same shownState_alike fun shown => ?_
        rw [hEngine, hServer]
        exact .pure (.same _)
  | disconnect =>
      refine .state_bind fun c c' hAlike => ?_
      rw [hAlike.isConnected_eq]
      exact .bind_same Connections.disconnect_alike
        fun _ => .pure (.same _)
  | status =>
      refine .bind_same shownState_alike fun shown => ?_
      have hFields : AnswerAlike lo hi _ _ :=
        .success
          (shown.toFields ++
            [("queryMode", .null),
             ("queryModeDescription", .null)])
      have hSame := shown.underMode_toFields
      simp only [Fields.underMode, List.map_append]
        at hFields hSame
      rw [hSame, hSame] at hFields
      exact .pure hFields
  | listDatabases =>
      exact .bind_same
        (Connections.active_alike fun _ =>
          Session.listDatabases_alike)
        fun names => .pure (.same _)
  | switchDatabase hName =>
      refine .bind_same ?_ fun _ => ?_
      · exact Connections.active_alike fun _ =>
          Session.switchDatabase_alike hName
      · exact .bind_same shownState_alike
          fun shown => .pure (.same _)
  | listTables =>
      exact .bind_same
        (Connections.active_alike fun _ =>
          Session.listTables_alike)
        fun tables => .pure (.same _)
  | describeTable params =>
      exact .bind_same
        (Connections.active_alike fun _ =>
          Session.describeTable_alike _ _)
        fun columns => .pure (.same _)
  | executeQuery hJudged =>
      refine .bind_same (permit_alike hJudged) fun _ => ?_
      exact .bind_same
        (Connections.active_alike fun _ =>
          Session.executeQuery_alike _ _)
        fun result => .pure (result.answer_alike lo hi _)

theorem answer_alike
    {request request' : Request}
    (hAlike : request.Alike like lo hi request') :
    AnswersAlike like lo hi (request.answer lo)
      (request'.answer hi) := by
  unfold answer answering
  refine .rescue (run_alike hAlike) fun e => ?_
  unfold reportFailure
  refine .ite (.bind_same (.log _ _) fun _ => ?_) ?_
  · exact .pure (.same _)
  · exact .pure (.same _)

end Request

------------------------------------------------------------
-- Calls
------------------------------------------------------------

variable {X : Rejection → Rejection → Prop}

/- What two calls left: answers that are alike, the same
   state and messages, and calls of drivers that are
   related one by one. -/
structure CallRecord.Alike
    (E : Event → Event → Prop)
    (X : Rejection → Rejection → Prop)
    (V : String → String → Prop)
    (entry entry' : CallRecord) : Prop where
  result : ExceptAlike X V entry.result entry'.result
  state : entry.state = entry'.state
  events : List.Forall₂ E entry.events entry'.events
  logs : entry.logs = entry'.logs

/- What two runs left, record by record. -/
structure CallsRun.Alike
    (E : Event → Event → Prop)
    (R : Connections → Connections → Prop)
    (X : Rejection → Rejection → Prop)
    (V : String → String → Prop)
    (run run' : CallsRun) : Prop where
  answered :
    List.Forall₂ (CallRecord.Alike E X V) run.answered
      run'.answered
  cut : run.cut = run'.cut
  connections : R run.connections run'.connections
  world : World.Alike E run.world run'.world

namespace CallsRun.Alike

variable {E : Event → Event → Prop}
variable {R : Connections → Connections → Prop}
variable {X : Rejection → Rejection → Prop}
variable {V : String → String → Prop}
variable {run run' : CallsRun}

theorem results
    (hRuns : CallsRun.Alike E R X V run run') :
    List.Forall₂ (ExceptAlike X V)
      (run.answered.map CallRecord.result)
      (run'.answered.map CallRecord.result) :=
  List.rel_map (fun _ _ hEntries => hEntries.result)
    hRuns.answered

theorem events
    (hRuns : CallsRun.Alike E R X V run run') :
    List.Forall₂ (List.Forall₂ E)
      (run.answered.map CallRecord.events)
      (run'.answered.map CallRecord.events) :=
  List.rel_map (fun _ _ hEntries => hEntries.events)
    hRuns.answered

theorem states
    (hRuns : CallsRun.Alike E R X V run run') :
    run.answered.map CallRecord.state =
      run'.answered.map CallRecord.state := by
  rw [← List.forall₂_eq_eq_eq]
  exact List.rel_map (fun _ _ hEntries => hEntries.state)
    hRuns.answered

theorem logs
    (hRuns : CallsRun.Alike E R X V run run') :
    run.answered.map CallRecord.logs =
      run'.answered.map CallRecord.logs := by
  rw [← List.forall₂_eq_eq_eq]
  exact List.rel_map (fun _ _ hEntries => hEntries.logs)
    hRuns.answered

end CallsRun.Alike

/- Two calls make requests that are alike, or are turned away
   in ways that are related, and meet the same script. -/
structure ToolCall.Alike
    (like : Likeness)
    (X : Rejection → Rejection → Prop)
    (lo hi : QueryMode)
    (call call' : ToolCall) : Prop where
  script : call.script = call'.script
  request :
    ExceptAlike X (Request.Alike like lo hi)
      (Request.ofCall call.tool call.given)
      (Request.ofCall call'.tool call'.given)

theorem callTool_alike
    {call call' : ToolCall}
    (hCalls : call.Alike like X lo hi call') :
    Act.Alike like.Calls (Connections.Alike like lo hi)
      (ExceptAlike X (AnswerAlike lo hi))
      (callTool call.tool call.given)
      (callTool call'.tool call'.given) := by
  unfold callTool
  have hRequest := hCalls.request
  revert hRequest
  generalize Request.ofCall call.tool call.given = result,
    Request.ofCall call'.tool call'.given = result'
  rintro (hAlike | hRejections)
  · refine .state_bind fun c c' hHolders => ?_
    rw [hHolders.first, hHolders.second]
    refine .bind (Request.answer_alike hAlike) ?_
    exact fun text text' hTexts => .pure (.ok hTexts)
  · exact .pure (.error hRejections)

theorem runCall_alike
    {call call' : ToolCall}
    {c c' : Connections}
    {w w' : World}
    (hCalls : call.Alike like X lo hi call')
    (hHolders : c.Alike like lo hi c')
    (hPools : w.nextPool = w'.nextPool) :
    let out := runCall call c w
    let out' := runCall call' c' w'
    ResultAlike
        (CallRecord.Alike like.Calls X (AnswerAlike lo hi))
        out.1 out'.1 ∧
      out.2.1.Alike like lo hi out'.2.1 ∧
      World.Alike like.Calls out.2.2 out'.2.2 := by
  have hWorld :
      World.Alike like.Calls (w.step call.script)
        (w'.step call'.script) :=
    ⟨hCalls.script, .nil, rfl, rfl, hPools⟩
  have hOut := callTool_alike hCalls c c' _ _ hHolders hWorld
  refine ⟨?_, hOut.state, hOut.world⟩
  refine hOut.result.map fun result result' hAlike => ?_
  exact
    ⟨hAlike, hOut.state.connectionState_eq,
      hOut.world.events, hOut.world.logs⟩

/-
  Two runs are alike if their first calls are, and those
  that follow are alike whatever the first have left.
-/
theorem runCalls_cons_alike
    {call call' : ToolCall}
    {calls calls' : List ToolCall}
    {c c' : Connections}
    {w w' : World}
    (hCalls : call.Alike like X lo hi call')
    (hHolders : c.Alike like lo hi c')
    (hWorld : World.Alike like.Calls w w')
    (hRest : ∀ entry d v d' v',
      runCall call c w = (.ok entry, d, v) →
        d.Alike like lo hi d' →
          World.Alike like.Calls v v' →
            CallsRun.Alike like.Calls
              (Connections.Alike like lo hi) X
              (AnswerAlike lo hi)
              (runCalls calls d v)
              (runCalls calls' d' v')) :
    CallsRun.Alike like.Calls
      (Connections.Alike like lo hi) X (AnswerAlike lo hi)
      (runCalls (call :: calls) c w)
      (runCalls (call' :: calls') c' w') := by
  rcases runCall_alike hCalls hHolders hWorld.nextPool with
    ⟨hResult, hAfter, hLater⟩
  unfold runCalls
  rcases hFirst : runCall call c w with ⟨result, d, v⟩
  rcases hSecond : runCall call' c' w' with ⟨result', d', v'⟩
  rw [hFirst, hSecond] at hResult hAfter hLater
  dsimp only at hResult hAfter hLater
  cases hResult with
  | ok hEntries =>
      rcases hRest _ d v d' v' hFirst hAfter hLater with
        ⟨hAnswered, hCut, hHeld, hLast⟩
      exact ⟨.cons hEntries hAnswered, hCut, hHeld, hLast⟩
  | error e => exact ⟨.nil, rfl, hAfter, hLater⟩

end SqlGateway
