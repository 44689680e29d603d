import SqlGateway.Proofs.Statement.Modes
import SqlGateway.Proofs.Tool.Alike
import SqlGateway.Proofs.Tool.Mediation

/-
  This file shows that the query mode decides what is
  admitted, and nothing else: where a mode refuses none of
  the statements that it is asked to execute, the same calls
  under a wider mode call the drivers in the same way, log
  the same, leave the same states, and are answered the same
  but for what is told of the mode.

  Key definitions include:
    * `ToolCall.RefusedBy`
    * `Likeness.same`

  Main declarations:
    * `exists_runCall_of_refused`
    * `runCalls_alike_of_unrefused`
    * `runs_agree_under_wider_mode`
-/

namespace SqlGateway

open Statement (QueryMode Refusal authorize authorize_mono)

------------------------------------------------------------
-- Refused Calls
------------------------------------------------------------

/- A call asks for a statement to be executed that a mode
   refuses. -/
def ToolCall.RefusedBy
    (mode : QueryMode)
    (call : ToolCall) : Prop :=
  ∃ params refusal,
    Request.ofCall call.tool call.given =
        .ok (.executeQuery params) ∧
      authorize mode params.query.toList = .error refusal

/- A call of a refused statement is answered, and cuts no
   run short. -/
theorem exists_runCall_of_refused
    {call : ToolCall}
    {c : Connections}
    (hRefused : call.RefusedBy c.settings.queryMode)
    (w : World) :
    ∃ entry d v, runCall call c w = (.ok entry, d, v) := by
  rcases hRefused with ⟨params, refusal, hCall, hJudged⟩
  have hAnswer :=
    (Request.answer_refused hJudged c (w.step call.script)).1
  have hResult :
      ((callTool call.tool call.given).run c
        (w.step call.script)).result =
          .ok (.ok (Failure.refused refusal).report) := by
    rw [run_callTool_of_request hCall,
      Act.run_bind_of_ok hAnswer]
    rfl
  simp only [runCall, hResult]
  exact ⟨_, _, _, rfl⟩

/- A run whose first call is answered goes on with the
   others. -/
theorem runCalls_cons_of_ok
    {call : ToolCall}
    {c d : Connections}
    {w v : World}
    {entry : CallRecord}
    (hFirst : runCall call c w = (.ok entry, d, v))
    (calls : List ToolCall) :
    (runCalls (call :: calls) c w).answered =
      entry :: (runCalls calls d v).answered := by
  rw [runCalls, hFirst]

------------------------------------------------------------
-- Two Modes
------------------------------------------------------------

/- Two runs that differ in nothing but the query mode. -/
def Likeness.same : Likeness where
  Calls := (· = ·)
  Configs _ := (· = ·)
  Names _ := True
  calls_refl _ := rfl
  server := by
    rintro _ _ _ rfl
    rfl
  windowsAuth := by
    rintro _ _ _ rfl
    rfl
  database := by
    rintro _ _ _ rfl
    rfl
  moved := by
    rintro _ _ _ _ rfl -
    rfl
  postgres := by
    rintro _ _ rfl
    exact .refl (fun _ _ _ => rfl) _
  sqlServer := by
    rintro _ _ _ _ rfl
    rfl

variable {lo hi : QueryMode}

/- A call that a mode does not refuse is judged alike by all
   wider modes. -/
theorem ToolCall.alike_of_unrefused
    {call : ToolCall}
    (hOrder : lo ≤ hi)
    (hUnrefused : ¬ call.RefusedBy lo) :
    call.Alike .same (· = ·) lo hi call := by
  refine ⟨rfl, ?_⟩
  cases hCall : Request.ofCall call.tool call.given with
  | error rejection => exact .error rfl
  | ok request =>
      refine .ok (request.alike_self (fun _ _ => rfl)
        (fun _ _ => trivial) ?_)
      rintro params rfl
      cases hJudged : authorize lo params.query.toList with
      | ok _ =>
          exact .inr ⟨hJudged, authorize_mono hOrder hJudged⟩
      | error refusal =>
          exact absurd ⟨params, refusal, hCall, hJudged⟩
            hUnrefused

------------------------------------------------------------
-- Two Runs
------------------------------------------------------------

/- While a mode refuses none of the calls that it answers,
   the run under a wider mode stays alike. -/
theorem runCalls_alike_of_unrefused
    (hOrder : lo ≤ hi)
    (calls : List ToolCall)
    {c c' : Connections}
    {w w' : World}
    (hHolders : c.Alike .same lo hi c')
    (hWorld : World.Alike (· = ·) w w')
    (hUnrefused :
      ∀ call ∈ calls.take (runCalls calls c w).answered.length,
        ¬ call.RefusedBy lo) :
    CallsRun.Alike (· = ·) (Connections.Alike .same lo hi)
      (· = ·) (AnswerAlike lo hi) (runCalls calls c w)
      (runCalls calls c' w') := by
  induction calls generalizing c c' w w' with
  | nil => exact ⟨.nil, rfl, hHolders, hWorld⟩
  | cons call calls ih =>
      have hCall : ¬ call.RefusedBy lo := by
        intro hRefused
        -- Being answered, it is among those not refused.
        rcases exists_runCall_of_refused
            (hHolders.first ▸ hRefused) w with
          ⟨entry, d, v, hFirst⟩
        refine hUnrefused call ?_ hRefused
        rw [runCalls_cons_of_ok hFirst, List.length_cons,
          List.take_succ_cons]
        exact List.mem_cons_self
      refine runCalls_cons_alike
        (ToolCall.alike_of_unrefused hOrder hCall)
        hHolders hWorld ?_
      intro entry d v d' v' hFirst hAfter hLater
      apply ih hAfter hLater
      intro other hMem
      apply hUnrefused
      rw [runCalls_cons_of_ok hFirst, List.length_cons,
        List.take_succ_cons]
      exact List.mem_cons_of_mem _ hMem

/-
  Under two modes, the second at least as wide as the first,
  the same calls meet the same scripts.  If the first mode
  refuses none of the calls it answers, both runs call the
  drivers in the same way, log the same, leave the same
  states and are cut short alike; their answers are the same
  but for what is told of the mode.

  And whatever statement a mode permits, all wider modes
  permit.
-/
theorem runs_agree_under_wider_mode
    (hOrder : lo ≤ hi)
    (calls : List ToolCall)
    (c : Connections)
    (w : World)
    (hUnrefused :
      ∀ call ∈ calls.take
          (runCalls calls (c.underMode lo) w).answered.length,
        ¬ call.RefusedBy lo) :
    let low := runCalls calls (c.underMode lo) w
    let high := runCalls calls (c.underMode hi) w
    (low.answered.map CallRecord.events =
        high.answered.map CallRecord.events ∧
      low.answered.map CallRecord.logs =
        high.answered.map CallRecord.logs ∧
      low.answered.map CallRecord.state =
        high.answered.map CallRecord.state ∧
      List.Forall₂ (ResultAlike (AnswerAlike lo hi))
        (low.answered.map CallRecord.result)
        (high.answered.map CallRecord.result)) ∧
      (low.cut = high.cut ∧ low.world = high.world ∧
        low.connections.Alike .same lo hi
          high.connections) ∧
      ∀ sql : List Char,
        authorize lo sql = .ok () →
          authorize hi sql = .ok () := by
  intro low high
  have hRuns :
      CallsRun.Alike (· = ·) (Connections.Alike .same lo hi)
        (· = ·) (AnswerAlike lo hi) low high :=
    runCalls_alike_of_unrefused hOrder calls
      (c.underMode_alike (fun _ _ => rfl) lo hi)
      (.refl (fun _ => rfl) w)
      hUnrefused
  refine ⟨⟨?_, hRuns.logs, hRuns.states, ?_⟩,
    ⟨hRuns.cut, hRuns.world.eq, hRuns.connections⟩, ?_⟩
  · have hEvents := hRuns.events
    simpa only [List.forall₂_eq_eq_eq] using hEvents
  · exact hRuns.results.imp
      fun _ _ hAlike => hAlike.resultAlike
  · exact fun sql => authorize_mono hOrder

/- A session is opened, read from and told of; no mode has
   anything against that, so the widest mode does the
   same. -/
theorem reading_agrees_under_full_mode :
    let connect : ToolCall :=
      ⟨{}, "connect-database",
        [("params",
          .object
            [("engine", .text "mssql"),
             ("server", .text "db")])]⟩
    let status : ToolCall := ⟨{}, "connection-status", []⟩
    let select : ToolCall :=
      ⟨{}, "execute-query",
        [("params", .object [("query", .text "SELECT 1")])]⟩
    let calls := [connect, select, status]
    let c : Connections := { settings := .unset }
    let low := runCalls calls (c.underMode .safe) {}
    let high := runCalls calls (c.underMode .full) {}
    QueryMode.safe ≤ .full ∧
      (∀ call ∈ calls.take low.answered.length,
        ¬ call.RefusedBy .safe) ∧
      List.Forall₂ (ResultAlike (AnswerAlike .safe .full))
        (low.answered.map CallRecord.result)
        (high.answered.map CallRecord.result) ∧
      low.world = high.world := by
  intro connect status select calls c low high
  have hOrder : QueryMode.safe ≤ .full := by decide
  have hConnect :
      ∃ params,
        Request.ofCall connect.tool connect.given =
          .ok (.connect params) :=
    ⟨_, rfl⟩
  have hStatus :
      Request.ofCall status.tool status.given =
        .ok .status :=
    rfl
  have hSelect :
      Request.ofCall select.tool select.given =
        .ok (.executeQuery ⟨"SELECT 1", 100, .json⟩) :=
    rfl
  have hPermitted :
      authorize .safe "SELECT 1".toList = .ok () := by
    decide
  have hUnrefused :
      ∀ call ∈ calls.take low.answered.length,
        ¬ call.RefusedBy .safe := by
    rintro call hTaken ⟨params, refusal, hCall, hJudged⟩
    have hMem :
        call = connect ∨ call = select ∨ call = status := by
      simpa [calls] using List.mem_of_mem_take hTaken
    rcases hMem with rfl | rfl | rfl
    · rcases hConnect with ⟨other, hConnect⟩
      rw [hConnect] at hCall
      cases hCall
    · rw [hSelect] at hCall
      cases hCall
      rw [hPermitted] at hJudged
      cases hJudged
    · rw [hStatus] at hCall
      cases hCall
  have hRuns :=
    runs_agree_under_wider_mode hOrder calls c {} hUnrefused
  exact
    ⟨hOrder, hUnrefused, hRuns.1.2.2.2, hRuns.2.1.2.1⟩

end SqlGateway
