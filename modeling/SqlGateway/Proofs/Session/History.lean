import SqlGateway.Proofs.Session.Settled

/-
  This file defines the histories of a session with SQL
  Server, and shows that each statement of a query runs in
  the database that the session reports, whichever
  connection of its pool it is handed.

  Key definitions include:
    * `SessionHistory` and `SessionHistory.after`
    * `SessionHistory.fleet`
    * `SessionHistory.RanWhereReported`

  Main declarations:
    * `SessionHistory.settled_extend`
    * `SessionHistory.settled_after`
    * `SessionHistory.statements_run_where_reported`
-/

namespace SqlGateway

------------------------------------------------------------
-- Histories
------------------------------------------------------------

/- The turns of a session so far, and what they led to. -/
structure SessionHistory where
  entries : List Entry := []
  session : Session
  world : World := {}

namespace SessionHistory

/- A session with SQL Server, before it is asked
   anything. -/
def start (settings : Settings) : SessionHistory where
  session := { engine := .sqlServer, settings }

/- What a turn leaves after a history. -/
def outcome
    (h : SessionHistory)
    (turn : Turn) : Outcome Session Unit :=
  turn.command.onSession.run h.session
    (h.world.step turn.script)

/- The entry of a turn after a history. -/
def entry
    (h : SessionHistory)
    (turn : Turn) : Entry where
  turn
  result := (h.outcome turn).result
  events := (h.outcome turn).world.events

/- A history goes on by a turn, whatever it leaves. -/
def extend
    (h : SessionHistory)
    (turn : Turn) : SessionHistory where
  entries := h.entries ++ [h.entry turn]
  session := (h.outcome turn).state
  world := (h.outcome turn).world

/- The history of turns, from the first on. -/
def after
    (settings : Settings)
    (turns : List Turn) : SessionHistory :=
  turns.foldl extend (start settings)

/- The commands of a history, and whether they ended
   well. -/
def outcomes (h : SessionHistory) : List (Command × Bool) :=
  h.entries.map fun entry =>
    (entry.turn.command, entry.result.isOk)

/- The connections as the calls of a turn leave them. -/
def fleetStep
    (server : Server)
    (f : Fleet)
    (entry : Entry) : Fleet :=
  (f.playing entry.turn.script).replay server entry.events

/- The connections as all turns have left them, and what the
   last one ran. -/
def fleet
    (server : Server)
    (h : SessionHistory) : Fleet :=
  h.entries.foldl (fleetStep server) {}

variable {server : Server}
variable {settings : Settings}
variable {h : SessionHistory}

------------------------------------------------------------
-- Whole Histories
------------------------------------------------------------

/-
  What holds of a history: its session is settled among the
  connections, keeps its settings, and reports the place to
  which the commands have led.
-/
structure Settled
    (server : Server)
    (settings : Settings)
    (h : SessionHistory) : Prop where
  session : h.session.Settled h.world.nextPool (h.fleet server)
  settings_eq : h.session.settings = settings
  reports_eq :
    h.session.reportedPlace? =
      Place.ofOutcomes settings h.outcomes

theorem settled_start :
    (start settings).Settled server settings where
  session := .closed rfl rfl rfl
  settings_eq := rfl
  reports_eq := rfl

theorem fleet_extend
    (server : Server)
    (h : SessionHistory)
    (turn : Turn) :
    (h.extend turn).fleet server =
      ((h.fleet server).playing turn.script).replay server
        (h.outcome turn).world.events := by
  simp [fleet, extend, entry, fleetStep, List.foldl_append]

theorem fleet_extend_of_becomes
    {turn : Turn}
    {f' : Fleet}
    (hBecomes :
      Fleet.Becomes server
        ((h.fleet server).playing turn.script)
        (h.world.step turn.script) (h.outcome turn).world
        f') :
    (h.extend turn).fleet server = f' := by
  rw [fleet_extend]
  exact hBecomes.replay_eq rfl

/- A new script leaves a session settled. -/
theorem Settled.playing
    (hSettled : h.Settled server settings)
    (script : Script) :
    h.session.Settled (h.world.step script).nextPool
      ((h.fleet server).playing script) := by
  apply hSettled.session.of_place (Nat.le_refl _)
  intro _ pool _
  rfl

/- A turn keeps what holds of a history. -/
theorem settled_extend
    {turn : Turn}
    (hLawful : server.Lawful)
    (hStays : turn.command.Stays server)
    (hSettled : h.Settled server settings) :
    (h.extend turn).Settled server settings := by
  have hLeaves :=
    Command.onSession_leavesSettled hLawful hStays
      (hSettled.playing turn.script) rfl
  rcases hLeaves.settled with ⟨f', hBecomes, hNow⟩
  constructor
  · rw [fleet_extend_of_becomes hBecomes]
    exact hNow
  · exact hLeaves.settings_eq.trans hSettled.settings_eq
  · have hReports := hLeaves.reports_eq
    rw [hSettled.settings_eq, hSettled.reports_eq] at hReports
    rw [extend, outcomes, List.map_append, Place.ofOutcomes,
      List.foldl_append]
    exact hReports

theorem settled_after
    {turns : List Turn}
    (hLawful : server.Lawful)
    (hStays : ∀ turn ∈ turns, turn.command.Stays server) :
    (after settings turns).Settled server settings := by
  -- Induction on the turns, from any history they go on
  -- from.
  have hRun : ∀ h : SessionHistory,
      h.Settled server settings →
        (turns.foldl extend h).Settled server settings := by
    induction turns with
    | nil =>
        intro h hSettled
        exact hSettled
    | cons turn turns ih =>
        intro h hSettled
        rw [List.foldl_cons]
        apply ih
        · intro other hMem
          exact hStays other (List.mem_cons_of_mem turn hMem)
        · apply settled_extend hLawful _ hSettled
          exact hStays turn List.mem_cons_self
  exact hRun _ settled_start

------------------------------------------------------------
-- Statements
------------------------------------------------------------

/-
  What a query ran: each of its own statements where the
  session reports; and none of them, but a failure of the
  query, if USE failed.
-/
structure RanWhereReported
    (s : Session)
    (command : Command)
    (result : Except Failure Unit)
    (ran : List Execution) : Prop where
  place :
    ∀ x ∈ ran, command.Submits x.statement →
      x.place = s.reportedPlace? ∧ x.place.isSome = true
  pointed :
    ∀ x ∈ ran, Session.IsUse x.statement →
      ∀ e, x.error = some e →
        (∀ y ∈ ran, ¬ command.Submits y.statement) ∧
          ∃ e', result = .error e' ∧
            if e.endsRun then
              e' = e
            else
              e'.category? = some .query ∧
                e'.cause? = some e

/- What an operation sent tells where its statement ran. -/
theorem ranWhereReported_of_sent
    {s : Session}
    {command : Command}
    {operation : Operation}
    {result : Except Failure Unit}
    {ran : List Execution}
    (hLawful : server.Lawful)
    (hStays : command.Stays server)
    (hReports : s.reportedPlace?.isSome = true)
    (hSent :
      Session.Sent s command.Submits
        (Failure.wrappedBy (.operationFailed operation))
        result ran) :
    RanWhereReported s command result ran := by
  have hApart : ∀ statement, command.Submits statement →
      ¬ Session.IsUse statement := by
    intro statement hSubmits
    apply Session.not_isUse_of_stays hLawful
    exact Command.movesTo?_of_submits hLawful hStays hSubmits
  cases hSent with
  | sent hUses hStatement hPlace =>
      constructor
      · intro y hMem hSubmits
        rcases List.mem_append.mp hMem with hUse | hOwn
        · have hIs := (hUses y hUse).1
          exact absurd hIs (hApart _ hSubmits)
        · rw [List.mem_singleton.mp hOwn, hPlace]
          exact ⟨rfl, hReports⟩
      · intro y hMem hIs e hError
        rcases List.mem_append.mp hMem with hUse | hOwn
        · rw [(hUses y hUse).2] at hError
          cases hError
        · rw [List.mem_singleton.mp hOwn] at hIs
          exact absurd hIs (hApart _ hStatement)
  | unsent e =>
      constructor
      · intro y hMem
        cases hMem
      · intro y hMem
        cases hMem
  | @unpointed e x hUse hError =>
      constructor
      · intro y hMem hSubmits
        rw [List.mem_singleton.mp hMem] at hSubmits
        exact absurd hUse (hApart _ hSubmits)
      · intro y hMem _ e' hSame
        rw [List.mem_singleton.mp hMem, hError] at hSame
        cases hSame
        constructor
        · intro z hOther hSubmits
          rw [List.mem_singleton.mp hOther] at hSubmits
          exact absurd hUse (hApart _ hSubmits)
        · refine ⟨_, rfl, ?_⟩
          by_cases hEnds : e.endsRun = true
          · rw [if_pos hEnds]
            exact Failure.wrappedBy_of_endsRun _ hEnds
          · have hNot : e.endsRun = false := by
              simpa using hEnds
            rw [if_neg hEnds,
              Failure.wrappedBy_of_not_endsRun _ hNot]
            exact ⟨rfl, rfl⟩

/- What a query runs after a settled history. -/
theorem ranWhereReported_extend
    {turn : Turn}
    (hLawful : server.Lawful)
    (hStays : turn.command.Stays server)
    (hSettled : h.Settled server settings)
    (hQuery : turn.command.isQuery = true) :
    RanWhereReported h.session turn.command
      (h.outcome turn).result
      ((h.extend turn).fleet server).executions := by
  have hNow := hSettled.playing turn.script
  cases hNow with
  | closed hEngine hConnected hReports =>
      have hOut :
          h.outcome turn =
            ⟨.error .notConnected, h.session,
              h.world.step turn.script⟩ :=
        Command.onSession_of_closed
          (Command.needsSession_of_isQuery hQuery) hConnected
          _
      have hNone :
          ((h.extend turn).fleet server).executions = [] := by
        rw [fleet_extend, hOut]
        rfl
      rw [hNone]
      constructor
      · intro x hMem
        cases hMem
      · intro x hMem
        cases hMem
  | placed hConnected hPool hPlaced =>
      have hScript :
          ((h.fleet server).playing turn.script).script =
            (h.world.step turn.script).script :=
        rfl
      rcases Command.query_queried hQuery hLawful hStays
          hConnected hPlaced hScript with
        ⟨operation, -, -, f', ran, hBecomes, hRan, -, hSent⟩
      rw [fleet_extend_of_becomes hBecomes, hRan]
      exact ranWhereReported_of_sent hLawful hStays
        hPlaced.reports hSent

/-
  After any turns, each with any behaviour of the drivers,
  and whichever connections the pools hand out: the session
  reports the place to which the commands have led, and a
  query runs its statement there.  If USE fails instead, the
  statement is not sent, and the query fails for that.
-/
theorem statements_run_where_reported
    {server : Server}
    (hLawful : server.Lawful)
    (settings : Settings)
    {turns : List Turn}
    {turn : Turn}
    (hStays : ∀ other ∈ turns ++ [turn],
      other.command.Stays server) :
    let h := after settings turns
    let ran := ((h.extend turn).fleet server).executions
    h.session.reportedPlace? =
        Place.ofOutcomes settings h.outcomes ∧
      ran.map Execution.statement =
        (h.outcome turn).world.events.filterMap
          Event.statement? ∧
      (turn.command.isQuery = true →
        RanWhereReported h.session turn.command
          (h.outcome turn).result ran) := by
  intro h ran
  have hBefore : h.Settled server settings := by
    apply settled_after hLawful
    intro other hMem
    exact hStays other (List.mem_append_left [turn] hMem)
  have hTurn : turn.command.Stays server := by
    apply hStays
    simp
  refine ⟨hBefore.reports_eq, ?_, ?_⟩
  · change ((h.extend turn).fleet server).executions.map
        Execution.statement = _
    rw [fleet_extend, Fleet.statements_replay]
    rfl
  · intro hQuery
    exact ranWhereReported_extend hLawful hTurn hBefore hQuery

------------------------------------------------------------
-- A Switched Session
------------------------------------------------------------

/- A server that knows USE, and hands out two connections in
   turn. -/
def useServer : Server where
  movesTo? statement :=
    match statement.toList with
    | 'U' :: 'S' :: 'E' :: ' ' :: name =>
        some (String.ofList name)
    | _ => none
  chosen n := n % 2

/- No statement that begins like SELECT moves a connection
   there. -/
theorem useServer_movesTo?
    {statement : String}
    {rest : List Char}
    (hText : statement = String.ofList ('S' :: rest)) :
    useServer.movesTo? statement = none := by
  rw [hText]
  simp [useServer]

-- The texts of the catalog are compared with a list of
-- characters, which goes as deep as they are long.
set_option maxRecDepth 20000 in
theorem useServer_lawful : useServer.Lawful where
  use name := by simp [useServer]
  probe := useServer_movesTo? rfl
  listDatabases := useServer_movesTo? rfl
  listTables := useServer_movesTo? rfl
  describeTable := useServer_movesTo? rfl

/- A session is opened, then switched to another
   database. -/
def switchingTurns : List Turn :=
  [{ command :=
      .connect { engine := "mssql", server := .text "db" } },
   { command := .switchDatabase "Sales" }]

/- Then a statement is executed. -/
def countingTurn : Turn where
  command := .executeQuery "SELECT 1 AS n" (.int 100)

/- No turn is given a statement that moves a connection. -/
theorem switchingTurns_stay :
    ∀ other ∈ switchingTurns ++ [countingTurn],
      other.command.Stays useServer := by
  have hCounting : countingTurn.command.Stays useServer := by
    intro statement hCapped
    have hText :
        Session.cappedStatement .sqlServer "SELECT 1 AS n"
            (.int 100) =
          .ok "SELECT TOP 100 1 AS n" := by
      rfl
    rw [hText] at hCapped
    cases hCapped
    exact useServer_movesTo? rfl
  simpa [switchingTurns, Command.Stays] using hCounting

/-
  The statement is handed the connection that the switch did
  not run on, and runs in the database of the switch.
-/
theorem query_runs_in_switched_database :
    let h := after .unset switchingTurns
    let ran :=
      ((h.extend countingTurn).fleet useServer).executions
    (useServer.Lawful ∧
        ∀ other ∈ switchingTurns ++ [countingTurn],
          other.command.Stays useServer) ∧
      (h.session.reportedPlace? =
          Place.ofOutcomes .unset h.outcomes ∧
        ran.map Execution.statement =
          (h.outcome countingTurn).world.events.filterMap
            Event.statement? ∧
        (countingTurn.command.isQuery = true →
          RanWhereReported h.session countingTurn.command
            (h.outcome countingTurn).result ran)) ∧
      ran.map Execution.statement =
        ["USE [Sales]", "SELECT TOP 100 1 AS n"] ∧
      (ran.getLast?.bind Execution.place) =
        some (.named "[Sales]") :=
  ⟨⟨useServer_lawful, switchingTurns_stay⟩,
    statements_run_where_reported useServer_lawful
      .unset switchingTurns_stay,
    rfl, rfl⟩

end SessionHistory

end SqlGateway
