import SqlGateway.Proofs.Connections.Pools
import SqlGateway.Proofs.Tool.Mediation

/-
  This file follows the pools through the calls of tools:
  however a call ends, the pools are settled, and a ledger
  that fits the trace before it fits the trace after it.
  Only a failure that ends the run cuts calls short.

  Key definitions include:
    * `Connections.Settled`
    * `CallsRun.trace` and `CallsRun.abandoned`

  Main declarations:
    * `Request.answer_settled`
    * `runCall_settles`
    * `runCalls_fits`
-/

namespace SqlGateway

open Act (Keeps)

------------------------------------------------------------
-- Settled Holders
------------------------------------------------------------

namespace Connections

/- An action of a holder left it sound, and the pools
   settled. -/
structure Settled
    {α : Type}
    (c : Connections)
    (w : World)
    (out : Outcome Connections α) : Prop where
  sound : out.state.Sound
  settles :
    w.Settles c.activePool out.world out.state.activePool
      (out.result.map fun _ => ())

namespace Settled

variable {α β : Type}
variable {c : Connections}
variable {w : World}

/- A command leaves the pools settled. -/
theorem ofCommand
    (command : Command)
    (hSound : c.Sound)
    (w : World) :
    Settled c w (command.run.run c w) := by
  have hResult : ∀ result : Except Failure Unit,
      (result.map fun _ => ()) = result := by
    rintro (e | a)
    · rfl
    · rfl
  refine ⟨command.sound_run hSound w, ?_⟩
  rw [hResult]
  exact command.run_settles hSound w

/- What leaves the holder and all pools alone leaves the
   pools settled. -/
theorem ofKeeps
    {act : Act Connections α}
    (hSound : c.Sound)
    (hKeeps : Keeps (· = c) Progress.poolless act) :
    Settled c w (act.run c w) := by
  rcases hKeeps c w rfl with ⟨hState, hLeads⟩
  have hPool :
      (act.run c w).state.activePool = c.activePool :=
    congrArg Connections.activePool hState
  refine ⟨?_, ?_⟩
  · rw [hState]
    exact hSound
  · rw [hPool]
    exact .kept (hLeads c.activePool)

theorem bind
    {act : Act Connections α}
    {next : α → Act Connections β}
    (hSettled : Settled c w (act.run c w))
    (hTells : ∀ a c w, ∃ b,
      (next a).run c w = ⟨.ok b, c, w⟩) :
    Settled c w ((act >>= next).run c w) := by
  rcases hSettled with ⟨hSound, hSettles⟩
  cases hResult : (act.run c w).result with
  | ok a =>
      rw [hResult] at hSettles
      rw [Act.run_bind_of_ok hResult]
      rcases hTells a (act.run c w).state
        (act.run c w).world with ⟨b, hOut⟩
      rw [hOut]
      exact ⟨hSound, hSettles⟩
  | error e =>
      rw [hResult] at hSettles
      rw [Act.run_bind_of_error hResult]
      exact ⟨hSound, hSettles⟩

end Settled

end Connections

/- Reporting a failure always gives an answer, and calls no
   driver. -/
theorem run_reportFailure
    {σ : Type}
    (e : Failure)
    (s : σ)
    (w : World) :
    let out := (reportFailure e).run s w
    out.result = .ok e.report ∧ out.state = s ∧
      w.SameCalls out.world := by
  intro out
  simp only [out, reportFailure]
  split
  · exact ⟨rfl, rfl, rfl, rfl, .refl _⟩
  · exact ⟨rfl, rfl, rfl, rfl, .refl _⟩

/- Pools that are settled when a call fails are so when the
   failure is reported. -/
theorem Connections.Settled.answering
    {c : Connections}
    {w : World}
    {call : Act Connections String}
    (hSettled : Settled c w (call.run c w)) :
    let out := (answering call).run c w
    Settled c w out ∧
      ∀ e, out.result = .error e → e.endsRun = true := by
  intro out
  rcases hSettled with ⟨hSound, hSettles⟩
  cases hResult : (call.run c w).result with
  | ok text =>
      have hOut : out = call.run c w :=
        Act.run_rescue_of_ok hResult
      rw [hOut]
      refine ⟨⟨hSound, hSettles⟩, ?_⟩
      intro e hError
      rw [hResult] at hError
      cases hError
  | error e =>
      have hOut : out = _ := Act.run_rescue_of_error hResult
      cases hEnds : e.endsRun with
      | true =>
          rw [if_pos hEnds] at hOut
          rw [hOut]
          refine ⟨⟨hSound, hSettles⟩, ?_⟩
          intro e' hError
          rw [hResult] at hError
          cases hError
          exact hEnds
      | false =>
          rw [if_neg (by simp [hEnds])] at hOut
          rcases run_reportFailure e (call.run c w).state
            (call.run c w).world with
            ⟨hText, hState, hSame⟩
          rw [hOut]
          refine ⟨⟨?_, ?_⟩, ?_⟩
          · rw [hState]
            exact hSound
          · rw [hText, hState]
            rcases hSettles with
              ⟨hLeads, -⟩ | ⟨-, e', hError, hStrands⟩
            · exact .replaced
                (hLeads.trans (.ofSameCalls hSame _))
            · -- A pool is stranded only when the run ends.
              rw [hResult] at hError
              cases hError
              have hStrandEnds := hStrands.endsRun
              rw [hEnds] at hStrandEnds
              cases hStrandEnds
          · intro e' hError
            rw [hText] at hError
            cases hError

------------------------------------------------------------
-- Requests
------------------------------------------------------------

namespace Request

variable {mode : Statement.QueryMode}

/- A request that opens, closes and switches no session
   leaves the holder alone, and all pools. -/
theorem run_keeps_pools
    {request : Request}
    (c : Connections)
    (hReads : request.movesSession = false) :
    Keeps (· = c) Progress.poolless (request.run mode) := by
  have hCarries := Progress.poolless_carries
  cases request with
  | connect params => cases hReads
  | disconnect => cases hReads
  | switchDatabase params => cases hReads
  | status => exact .bind shownState_keeps fun _ => .pure _
  | listDatabases =>
      refine .bind ?_ fun names => .pure _
      exact Connections.active_keeps fun _ _ _ =>
        Session.listDatabases_keeps hCarries
          fun _ _ => trivial
  | listTables =>
      refine .bind ?_ fun tables => .pure _
      exact Connections.active_keeps fun _ _ _ =>
        Session.listTables_keeps hCarries
          fun _ _ => trivial
  | describeTable params =>
      refine .bind ?_ fun columns => .pure _
      exact Connections.active_keeps fun _ _ _ =>
        Session.describeTable_keeps hCarries
          fun _ _ => trivial
  | executeQuery params =>
      apply permit_bind_keeps
      intro _
      refine .bind ?_ fun result => .pure _
      exact Connections.active_keeps fun _ _ _ =>
        Session.executeQuery_keeps hCarries
          fun _ _ _ _ => trivial

/- However a request ends, the pools are settled. -/
theorem run_settled
    (request : Request)
    {c : Connections}
    (hSound : c.Sound)
    (w : World) :
    Connections.Settled c w
      ((request.run mode).run c w) := by
  cases request with
  | connect params =>
      apply Connections.Settled.bind
      · exact .ofCommand (.connect params.toConfig) hSound w
      · exact fun _ _ _ => ⟨_, rfl⟩
  | disconnect =>
      change Connections.Settled c w
        ((Act.state >>= fun c =>
          Connections.disconnect >>= fun _ => _).run c w)
      rw [Act.run_state_bind]
      apply Connections.Settled.bind
      · exact .ofCommand .disconnect hSound w
      · exact fun _ _ _ => ⟨_, rfl⟩
  | switchDatabase params =>
      apply Connections.Settled.bind
      · exact .ofCommand (.switchDatabase params.database)
          hSound w
      · exact fun _ _ _ => ⟨_, rfl⟩
  | _ => exact .ofKeeps hSound (run_keeps_pools c rfl)

/- A request that is answered leaves the pools settled, and
   only what ends the run is left unanswered. -/
theorem answer_settled
    (request : Request)
    {c : Connections}
    (hSound : c.Sound)
    (w : World) :
    let out := (request.answer mode).run c w
    Connections.Settled c w out ∧
      ∀ e, out.result = .error e → e.endsRun = true :=
  (request.run_settled hSound w).answering

end Request

------------------------------------------------------------
-- Calls
------------------------------------------------------------

/- However a call of a tool ends, the pools are settled, and
   only what ends the run cuts it short. -/
theorem runCall_settles
    (call : ToolCall)
    {c : Connections}
    (hSound : c.Sound)
    (w : World) :
    let out := runCall call c w
    out.2.1.Sound ∧
      (w.step call.script).Settles c.activePool out.2.2
        out.2.1.activePool (out.1.map fun _ => ()) ∧
      ∀ e, out.1 = .error e → e.endsRun = true := by
  intro out
  let w' := w.step call.script
  cases hCall : Request.ofCall call.tool call.given with
  | error rejection =>
      have hRun := run_callTool_of_error hCall c w'
      have hOut :
          out = (.ok ⟨.error rejection, c.connectionState,
            [], []⟩, c, w') := by
        simp only [out, runCall]
        rw [hRun]
        rfl
      rw [hOut]
      refine ⟨hSound, ?_, nofun⟩
      exact .kept (.ofSameCalls ⟨rfl, rfl, .refl _⟩ _)
  | ok request =>
      rcases @Request.answer_settled c.settings.queryMode
          request c hSound w' with
        ⟨⟨hAfter, hSettles⟩, hEnds⟩
      have hRun := run_callTool_of_request hCall c w'
      cases hResult :
          ((request.answer c.settings.queryMode).run c
            w').result with
      | ok text =>
          rw [Act.run_bind_of_ok hResult] at hRun
          rw [hResult] at hSettles
          simp only [out, runCall]
          rw [hRun]
          exact ⟨hAfter, hSettles, nofun⟩
      | error e =>
          rw [Act.run_bind_of_error hResult] at hRun
          rw [hResult] at hSettles
          simp only [out, runCall]
          rw [hRun]
          refine ⟨hAfter, hSettles, ?_⟩
          rintro _ ⟨⟩
          exact hEnds e hResult

/- The record of a call has the calls of drivers in it. -/
theorem events_of_runCall
    {call : ToolCall}
    {c c' : Connections}
    {w w' : World}
    {entry : CallRecord}
    (hCall : runCall call c w = (.ok entry, c', w')) :
    entry.events = w'.events := by
  let out := (callTool call.tool call.given).run c
    (w.step call.script)
  have hWorld : out.world = w' :=
    congrArg (fun left => left.2.2) hCall
  have hEntry : out.result.map _ = .ok entry :=
    congrArg Prod.fst hCall
  cases hResult : out.result with
  | error e =>
      rw [hResult] at hEntry
      cases hEntry
  | ok result =>
      rw [hResult] at hEntry
      rw [← hWorld, ← Except.ok.inj hEntry]

namespace CallsRun

/- The calls of drivers that were recorded, in their order;
   those of a call that was cut short come last. -/
def trace (run : CallsRun) : List Event :=
  run.answered.flatMap CallRecord.events ++
    if run.cut.isSome then run.world.events else []

/- The pools that were made and left open by a call that was
   cut short. -/
def abandoned (run : CallsRun) : List Nat :=
  if run.cut.isSome then
    unreleased run.world.events
  else
    []

end CallsRun

/-
  Calls of tools lead from a ledger that fits the trace
  before them to one that fits the trace after them.  One
  pool at most is abandoned, by a call that was cut short,
  and none if all scripts are ordinary.
-/
theorem runCalls_fits
    (calls : List ToolCall)
    {c : Connections}
    {w : World}
    {lost : List Nat}
    {events : List Event}
    (hSound : c.Sound)
    (hFits : Ledger.Fits 0
      ⟨lost, c.activePool, w.nextPool⟩ events) :
    let run := runCalls calls c w
    run.connections.Sound ∧
      Ledger.Fits 0
        ⟨lost ++ run.abandoned, run.connections.activePool,
          run.world.nextPool⟩
        (events ++ run.trace) ∧
      run.abandoned.length ≤ 1 ∧
      ((∀ call ∈ calls, call.script.Ordinary) →
        run.abandoned = []) := by
  induction calls generalizing c w lost events with
  | nil =>
      refine ⟨hSound, ?_, Nat.zero_le 1, fun _ => rfl⟩
      simpa [runCalls, CallsRun.trace, CallsRun.abandoned]
        using hFits
  | cons call calls ih =>
      rcases runCall_settles call hSound w with
        ⟨hAfter, hSettles, hEnds⟩
      have hNext := hSettles.fits rfl hFits
      have hNone := hSettles.abandonedBy_of_ordinary rfl hFits
      have hLength := hSettles.length_abandonedBy_le rfl hFits
      unfold runCalls
      split
      · rename_i entry c' w' hCall
        have hEvents := events_of_runCall hCall
        rw [hCall] at hAfter hNext
        -- An answered call abandons nothing.
        have hBefore :
            Ledger.Fits 0
              ⟨lost, c'.activePool, w'.nextPool⟩
              (events ++ entry.events) := by
          rw [hEvents]
          simpa [abandonedBy, cutShort, Except.map] using hNext
        rcases ih hAfter hBefore with
          ⟨hLast, hRest, hOne, hOthers⟩
        refine ⟨hLast, ?_, hOne, ?_⟩
        · rw [List.append_assoc] at hRest
          simpa [CallsRun.trace, CallsRun.abandoned] using hRest
        · intro hOrdinary
          exact hOthers fun other hMem =>
            hOrdinary other (List.mem_cons_of_mem _ hMem)
      · rename_i e c' w' hCall
        rw [hCall] at hAfter hNext hNone hLength hEnds
        have hCut : e.endsRun = true := hEnds e rfl
        have hAbandoned :
            abandonedBy (Except.map (fun _ => ())
                (.error e : Except Failure CallRecord))
              w'.events =
              unreleased w'.events :=
          if_pos hCut
        rw [hAbandoned] at hNext hNone hLength
        refine ⟨hAfter, ?_, hLength, ?_⟩
        · simpa [CallsRun.trace, CallsRun.abandoned] using hNext
        · intro hOrdinary
          exact hNone (hOrdinary call List.mem_cons_self)

end SqlGateway
