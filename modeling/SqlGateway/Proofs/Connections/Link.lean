import SqlGateway.Proofs.Connections.History

/-
  This file shows that the holder of the session behaves as
  a machine with two kinds of states: idle, or connected to
  a database of a server.  The state follows from the
  commands and from which of them succeeded, and nothing
  else: however a command fails, it fails alike.

  Key definitions include:
    * `Link`
    * `Link.next`
    * `Link.ofOutcomes`
    * `Connections.link`

  Main declarations:
    * `Command.link_run`
    * `History.connectionState_after`
-/

namespace SqlGateway

------------------------------------------------------------
-- The Machine
------------------------------------------------------------

/- What the holder is connected to. -/
inductive Link where
  | idle
  | connected (engine : Engine) (server database : Value)

namespace Link

/- What is shown of a link. -/
def shown : Link → ConnectionState
  | idle => {}
  | connected engine server database =>
      { connected := true
        engine := some engine
        database
        server }

/- The link that a configuration asks for. -/
def ofConfig (config : ConnectionConfig) : Link :=
  match Engine.ofName? config.engine with
  | some engine =>
      connected engine config.server
        (config.databaseFor engine)
  | none => idle

/-
  The link after an attempt to switch.  SQL Server takes the
  name as it is and survives a failure; PostgreSQL takes its
  default for an empty name and loses the session.
-/
def switched
    (database : String)
    (succeeded : Bool) : Link → Link
  | idle => idle
  | connected .sqlServer server current =>
      if succeeded then
        connected .sqlServer server (.text database)
      else
        connected .sqlServer server current
  | connected .postgres server _ =>
      if succeeded then
        connected .postgres server
          (.text
            (if database = "" then "postgres" else database))
      else
        idle

/- The link after a command. -/
def next
    (link : Link)
    (command : Command)
    (succeeded : Bool) : Link :=
  match command with
  | .connect config =>
      if succeeded then ofConfig config else idle
  | .disconnect => idle
  | .switchDatabase database =>
      link.switched database succeeded
  | _ => link

/- The link after commands of which some succeeded. -/
def ofOutcomes (outcomes : List (Command × Bool)) : Link :=
  outcomes.foldl (fun link entry => link.next entry.1 entry.2)
    idle

end Link

------------------------------------------------------------
-- The Link of a Holder
------------------------------------------------------------

namespace Connections

/- What a holder is connected to. -/
def link (c : Connections) : Link :=
  match c.session with
  | some session =>
      if session.connected then
        .connected session.engine c.server session.database
      else
        .idle
  | none => .idle

/- What is shown is what is shown of the link. -/
theorem connectionState_eq (c : Connections) :
    c.connectionState = c.link.shown := by
  unfold connectionState link
  cases c.session with
  | none => rfl
  | some session =>
      cases hConnected : session.connected with
      | true => simp [Link.shown, hConnected]
      | false => simp [Link.shown, hConnected]

theorem link_of_none
    {c : Connections}
    (hSession : c.session = none) :
    c.link = .idle := by
  simp only [link, hSession]

theorem link_of_connected
    {c : Connections}
    {session : Session}
    (hSession : c.session = some session)
    (hConnected : session.connected = true) :
    c.link =
      .connected session.engine c.server
        session.database := by
  simp [link, hSession, hConnected]

/- A holder that is not connected is idle. -/
theorem link_of_not_isConnected
    {c : Connections}
    (hConnected : c.isConnected = false) :
    c.link = .idle := by
  cases hSession : c.session with
  | none => exact link_of_none hSession
  | some session =>
      simp only [isConnected, hSession] at hConnected
      simp [link, hSession, hConnected]

/- A holder that is idle is not connected. -/
theorem not_isConnected_of_link
    {c : Connections}
    (hIdle : c.link = .idle) :
    c.isConnected = false := by
  cases hConnected : c.isConnected with
  | false => rfl
  | true =>
      rcases exists_of_isConnected hConnected with
        ⟨session, hSession, hOpen⟩
      rw [link_of_connected hSession hOpen] at hIdle
      cases hIdle

end Connections

------------------------------------------------------------
-- Simulation
------------------------------------------------------------

/- A database name as a configuration for PostgreSQL takes
   it: an empty one counts as none. -/
theorem ConnectionConfig.databaseFor_text
    {config : ConnectionConfig}
    {database : String}
    (hDatabase : config.database = .text database) :
    config.databaseFor .postgres =
      .text
        (if database = "" then "postgres" else database) := by
  unfold databaseFor
  rw [hDatabase]
  by_cases hEmpty : database = ""
  · simp [Value.isTruthy, hEmpty, Engine.defaultDatabase]
  · simp [Value.isTruthy, hEmpty]

theorem Connections.link_of_switched
    {c : Connections}
    {session : Session}
    {database : String}
    {w : World}
    {out : Outcome Session Unit}
    (hSession : c.session = some session)
    (hConnected : session.connected = true)
    (hSwitched : session.Switched database w out) :
    (keep out.state c).link =
      c.link.switched database out.result.isOk := by
  rw [link_of_connected hSession hConnected]
  cases hSwitched with
  | moved hEngine hLeads =>
      simp [keep, link, Link.switched, hConnected, hEngine,
        Except.isOk, Except.toBool]
  | unmoved hEngine hLeads =>
      simp [keep, link, Link.switched, hConnected, hEngine,
        Except.isOk, Except.toBool]
  | reopened hEngine hDatabase hLeads =>
      simp [keep, link, Link.switched, hEngine,
        Session.opened, Session.closed, Except.isOk,
        Except.toBool,
        ConnectionConfig.databaseFor_text hDatabase]
  | lost hEngine hLeads =>
      simp [keep, link, Link.switched, hEngine,
        Session.closed, Except.isOk, Except.toBool]

/- A command does to the link what the machine does. -/
theorem Command.link_run
    (command : Command)
    {c : Connections}
    (hSound : c.Sound)
    (w : World) :
    let out := command.run.run c w
    out.state.link =
      c.link.next command out.result.isOk := by
  intro out
  cases command with
  | connect config =>
      rcases Connections.connect_leads hSound config w with
        ⟨-, ⟨hOk, engine, pool, hEngine, hSession, hServer, -⟩
          | ⟨e, hError, hNone, -⟩⟩
      · have hLink :=
          Connections.link_of_connected hSession rfl
        simp only [out, run, hOk, hLink, hServer, Link.next,
          Link.ofConfig, hEngine, Except.isOk, Except.toBool]
        rfl
      · have hLink := Connections.link_of_none hNone
        simp only [out, run, hError, hLink, Link.next,
          Except.isOk, Except.toBool]
        rfl
  | disconnect =>
      have hNone := (Connections.disconnect_leads hSound w).1
      exact Connections.link_of_none hNone
  | switchDatabase database =>
      cases hConnected : c.isConnected with
      | false =>
          have hLink :=
            Connections.link_of_not_isConnected hConnected
          have hOut : out = ⟨.error .notConnected, c, w⟩ :=
            run_of_idle rfl hConnected w
          rw [hOut, hLink]
          rfl
      | true =>
          rcases Connections.exists_of_isConnected hConnected
            with ⟨session, hSession, hOpen⟩
          have hSwitched := Session.switchDatabase_switched
            database (hSound session hSession) hOpen w
          have hOut : out = _ :=
            run_of_connected rfl hSession hOpen w
          rw [hOut]
          exact Connections.link_of_switched hSession hOpen
            hSwitched
  | _ => exact congrArg Connections.link (run_query rfl c w).1

------------------------------------------------------------
-- Histories
------------------------------------------------------------

namespace History

/- The commands of a history, and which succeeded. -/
def outcomes (h : History) : List (Command × Bool) :=
  h.entries.map fun entry =>
    (entry.turn.command, entry.result.isOk)

theorem outcomes_extend
    (h : History)
    (turn : Turn) :
    (h.extend turn).outcomes =
      h.outcomes ++
        [(turn.command, (h.outcome turn).result.isOk)] := by
  simp [outcomes, extend, entry]

/- The link of the holder is the one of the machine. -/
theorem link_after
    (settings : Settings)
    (turns : List Turn) :
    (after settings turns).connections.link =
      Link.ofOutcomes (after settings turns).outcomes := by
  refine (after_induction
    (P := fun h =>
      h.connections.Sound ∧
        h.connections.link = Link.ofOutcomes h.outcomes)
    ?_ ?_ turns).2
  · exact ⟨Connections.sound_of_none rfl, rfl⟩
  · intro h turn hBefore
    rcases hBefore with ⟨hSound, hLink⟩
    refine ⟨turn.command.sound_run hSound _, ?_⟩
    have hNext := turn.command.link_run hSound
      (h.world.step turn.script)
    rw [hLink] at hNext
    rw [outcomes_extend, Link.ofOutcomes, List.foldl_append]
    exact hNext

/-
  After any turns, what is shown is the state of the machine
  after the same commands with the same successes; and where
  the machine is idle, any command but to connect and to
  disconnect fails for want of a session, changes nothing
  and calls no driver.
-/
theorem connectionState_after
    (settings : Settings)
    (turns : List Turn) :
    let h := after settings turns
    let link := Link.ofOutcomes h.outcomes
    h.connections.connectionState = link.shown ∧
      (link = .idle →
        ∀ turn : Turn, turn.command.needsSession = true →
          (h.outcome turn).result = .error .notConnected ∧
            (h.outcome turn).state = h.connections ∧
            (h.outcome turn).world.events = []) := by
  intro h link
  have hLink : h.connections.link = link :=
    link_after settings turns
  constructor
  · rw [Connections.connectionState_eq, hLink]
  · intro hIdle turn hNeeds
    have hConnected :=
      Connections.not_isConnected_of_link
        (hLink.trans hIdle)
    have hOut :
        h.outcome turn =
          ⟨.error .notConnected, h.connections,
            h.world.step turn.script⟩ :=
      Command.run_of_idle hNeeds hConnected _
    rw [hOut]
    exact ⟨rfl, rfl, rfl⟩

end History

end SqlGateway
