import SqlGateway.Proofs.Connections.Lifecycle

/-
  This file defines the histories of a holder: commands that
  are given to it one after the other, each with its own
  behaviour of the drivers, and what each of them left.

  Key definitions include:
    * `Command`, `Command.run` and `Command.onSession`
    * `Turn` and `Entry`
    * `History`
    * `History.after`

  Main declarations:
    * `Command.onSession_of_closed`
    * `Command.run_query`
    * `Command.sound_run`
    * `History.turns_after`
    * `History.after_induction`
-/

namespace SqlGateway

------------------------------------------------------------
-- Commands
------------------------------------------------------------

/- What a holder is asked to do. -/
inductive Command where
  | connect (config : ConnectionConfig)
  | disconnect
  | switchDatabase (database : String)
  | listDatabases
  | listTables
  | describeTable (table : String) (schema? : Option String)
  | executeQuery (sql : String) (limit : Value)

namespace Command

/- A command works on an open session. -/
def needsSession : Command → Bool
  | connect _ => false
  | disconnect => false
  | _ => true

/- A command reads, and sends a statement at most. -/
def isQuery : Command → Bool
  | connect _ => false
  | disconnect => false
  | switchDatabase _ => false
  | _ => true

/- The work of a command; its value does not matter. -/
def run : Command → Act Connections Unit
  | connect config => Connections.connect config
  | disconnect => Connections.disconnect
  | switchDatabase database =>
      Connections.switchDatabase database
  | listDatabases => discard Connections.listDatabases
  | listTables => discard Connections.listTables
  | describeTable table schema? =>
      discard (Connections.describeTable table schema?)
  | executeQuery sql limit =>
      discard (Connections.executeQuery sql limit)

/- The work of a command on a session itself. -/
def onSession : Command → Act Session Unit
  | connect config => Session.connect config
  | disconnect => Session.disconnect
  | switchDatabase database =>
      Session.switchDatabase database
  | listDatabases => discard Session.listDatabases
  | listTables => discard Session.listTables
  | describeTable table schema? =>
      discard (Session.describeTable table schema?)
  | executeQuery sql limit =>
      discard (Session.executeQuery sql limit)

/- A command that needs an open session works on the one
   that is held. -/
theorem run_eq_active
    {command : Command}
    (hNeeds : command.needsSession = true) :
    command.run = Connections.active command.onSession := by
  cases command with
  | connect config => cases hNeeds
  | disconnect => cases hNeeds
  | switchDatabase database => rfl
  | _ => exact Connections.discard_active _

/- A command that needs an open session fails without one,
   and nothing is called. -/
theorem run_of_idle
    {command : Command}
    {c : Connections}
    (hNeeds : command.needsSession = true)
    (hConnected : c.isConnected = false)
    (w : World) :
    command.run.run c w = ⟨.error .notConnected, c, w⟩ := by
  rw [run_eq_active hNeeds]
  exact Connections.run_active_of_idle hConnected _ w

/- On an open session an operation leaves what it leaves
   there. -/
theorem run_of_connected
    {command : Command}
    {c : Connections}
    {session : Session}
    (hNeeds : command.needsSession = true)
    (hSession : c.session = some session)
    (hConnected : session.connected = true)
    (w : World) :
    command.run.run c w =
      ⟨(command.onSession.run session w).result,
        Connections.keep
          (command.onSession.run session w).state c,
        (command.onSession.run session w).world⟩ := by
  rw [run_eq_active hNeeds]
  exact Connections.run_active_of_connected hSession
    hConnected _ w

theorem needsSession_of_isQuery
    {command : Command}
    (hQuery : command.isQuery = true) :
    command.needsSession = true := by
  cases command with
  | connect config => cases hQuery
  | disconnect => cases hQuery
  | _ => rfl

/- In a closed session nothing is done that needs an open
   one. -/
theorem onSession_of_closed
    {command : Command}
    {s : Session}
    (hNeeds : command.needsSession = true)
    (hConnected : s.connected = false)
    (w : World) :
    command.onSession.run s w =
      ⟨.error .notConnected, s, w⟩ := by
  have hClosed := fun {α} (next : Unit → Act Session α) =>
    Session.run_requireConnected_bind_of_closed hConnected
      next w
  cases command with
  | connect config => cases hNeeds
  | disconnect => cases hNeeds
  | switchDatabase database => exact hClosed _
  | listDatabases =>
      simp only [onSession, Act.run_discard,
        Session.listDatabases, hClosed]
      rfl
  | listTables =>
      simp only [onSession, Act.run_discard,
        Session.listTables, hClosed]
      rfl
  | describeTable table schema? =>
      simp only [onSession, Act.run_discard,
        Session.describeTable, hClosed]
      rfl
  | executeQuery sql limit =>
      simp only [onSession, Act.run_discard,
        Session.executeQuery, hClosed]
      rfl

/- A query leaves the session as it was, and makes and closes
   no pool. -/
theorem onSession_keeps
    {command : Command}
    (hQuery : command.isQuery = true)
    (inv : Session → Prop) :
    Act.Keeps inv Progress.poolless command.onSession := by
  have hCarries := Progress.poolless_carries
  cases command with
  | connect config => cases hQuery
  | disconnect => cases hQuery
  | switchDatabase database => cases hQuery
  | listDatabases =>
      exact .discard (Session.listDatabases_keeps hCarries
        fun _ _ => trivial)
  | listTables =>
      exact .discard (Session.listTables_keeps hCarries
        fun _ _ => trivial)
  | describeTable table schema? =>
      exact .discard (Session.describeTable_keeps hCarries
        fun _ _ => trivial)
  | executeQuery sql limit =>
      exact .discard (Session.executeQuery_keeps hCarries
        fun _ _ _ _ => trivial)

/- A query leaves the holder as it was, and all pools. -/
theorem run_query
    {command : Command}
    (hQuery : command.isQuery = true)
    (c : Connections)
    (w : World) :
    let out := command.run.run c w
    out.state = c ∧ ∀ held, w.Leads held out.world held := by
  rw [run_eq_active (needsSession_of_isQuery hQuery)]
  exact Connections.active_keeps
    (fun session _ _ => onSession_keeps hQuery (· = session))
    c w rfl

/- A command leaves a sound holder sound. -/
theorem sound_run
    (command : Command)
    {c : Connections}
    (hSound : c.Sound)
    (w : World) :
    (command.run.run c w).state.Sound := by
  cases command with
  | connect config =>
      rcases Connections.connect_leads hSound config w with
        ⟨-, ⟨-, engine, pool, -, hSession, -⟩ | ⟨e, -, hNone, -⟩⟩
      · apply Connections.sound_of_some hSession
        exact ⟨rfl, rfl⟩
      · exact Connections.sound_of_none hNone
  | disconnect =>
      have hNone := (Connections.disconnect_leads hSound w).1
      exact Connections.sound_of_none hNone
  | switchDatabase database =>
      cases hConnected : c.isConnected with
      | false =>
          rw [run_of_idle rfl hConnected w]
          exact hSound
      | true =>
          rcases Connections.exists_of_isConnected hConnected
            with ⟨session, hSession, hOpen⟩
          have hInner := hSound session hSession
          have hSwitched := Session.switchDatabase_switched
            database hInner hOpen w
          rw [run_of_connected rfl hSession hOpen w]
          exact Connections.sound_of_some rfl
            (hSwitched.sound hInner)
  | _ =>
      rw [(run_query rfl c w).1]
      exact hSound

end Command

------------------------------------------------------------
-- Histories
------------------------------------------------------------

/- A command, and how the drivers behave meanwhile. -/
structure Turn where
  script : Script := {}
  command : Command

/- What a turn left behind. -/
structure Entry where
  turn : Turn
  result : Except Failure Unit
  events : List Event

/- The turns so far, and what they led to. -/
structure History where
  entries : List Entry := []
  connections : Connections
  world : World := {}

namespace History

/- Nothing was asked yet. -/
def start (settings : Settings) : History where
  connections := { settings }

/- What a turn leaves after a history. -/
def outcome
    (h : History)
    (turn : Turn) : Outcome Connections Unit :=
  turn.command.run.run h.connections
    (h.world.step turn.script)

/- The entry of a turn after a history. -/
def entry
    (h : History)
    (turn : Turn) : Entry where
  turn
  result := (h.outcome turn).result
  events := (h.outcome turn).world.events

/- A history goes on by a turn, whatever it leaves. -/
def extend
    (h : History)
    (turn : Turn) : History where
  entries := h.entries ++ [h.entry turn]
  connections := (h.outcome turn).state
  world := (h.outcome turn).world

/- The history of turns, from the first on. -/
def after
    (settings : Settings)
    (turns : List Turn) : History :=
  turns.foldl extend (start settings)

/- All calls of drivers, in their order. -/
def trace (h : History) : List Event :=
  h.entries.flatMap Entry.events

theorem trace_extend
    (h : History)
    (turn : Turn) :
    (h.extend turn).trace =
      h.trace ++ (h.outcome turn).world.events := by
  simp [trace, extend, entry]

/- The entries are those of the turns, one by one. -/
theorem turns_after
    (settings : Settings)
    (turns : List Turn) :
    (after settings turns).entries.map Entry.turn =
      turns := by
  have hTurns : ∀ h : History,
      (turns.foldl extend h).entries.map Entry.turn =
        h.entries.map Entry.turn ++ turns := by
    induction turns with
    | nil => simp
    | cons turn turns ih =>
        intro h
        rw [List.foldl_cons, ih]
        simp [extend, entry]
  exact hTurns (start settings)

/- What holds at the start, and after a turn if before,
   holds after all turns. -/
theorem after_induction
    {P : History → Prop}
    {settings : Settings}
    (hStart : P (start settings))
    (hExtend : ∀ h turn, P h → P (h.extend turn))
    (turns : List Turn) :
    P (after settings turns) := by
  unfold after
  generalize start settings = h at hStart
  induction turns generalizing h with
  | nil => exact hStart
  | cons turn turns ih =>
      exact ih (h.extend turn) (hExtend h turn hStart)

end History

end SqlGateway
