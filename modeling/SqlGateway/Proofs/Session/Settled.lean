import SqlGateway.Proofs.Connections.History
import SqlGateway.Proofs.Session.Sending
import SqlGateway.Proofs.Session.Whereabouts

/-
  This file shows, command by command, that a session with
  SQL Server stays settled among the connections: they are
  where it reports, or each is pointed there before it is
  used.

  Key definitions include:
    * `Command.Submits` and `Command.Stays`
    * `Place.ofOutcomes`
    * `Session.Settled`
    * `Command.LeavesSettled`

  Main declarations:
    * `Command.query_queried`
    * `Command.onSession_leavesSettled`
-/

namespace SqlGateway

open Act (Keeps)

------------------------------------------------------------
-- Commands
------------------------------------------------------------

namespace Command

/- The statements that a query sends to SQL Server: that of
   the catalog, or the one it is given, as it is capped. -/
def Submits : Command → String → Prop
  | listDatabases, statement =>
      statement = CatalogQuery.listDatabases .sqlServer
  | listTables, statement =>
      statement = CatalogQuery.listTables .sqlServer
  | describeTable _ _, statement =>
      statement = CatalogQuery.describeTable .sqlServer
  | executeQuery sql limit, statement =>
      Session.cappedStatement .sqlServer sql limit =
        .ok statement
  | _, _ => False

/- A statement that a command is given moves no
   connection. -/
def Stays
    (server : Server) : Command → Prop
  | executeQuery sql limit =>
      ∀ statement,
        Session.cappedStatement .sqlServer sql limit =
            .ok statement →
          server.movesTo? statement = none
  | _ => True

/- Then no statement of a query moves one. -/
theorem movesTo?_of_submits
    {server : Server}
    {command : Command}
    {statement : String}
    (hLawful : server.Lawful)
    (hStays : command.Stays server)
    (hSubmits : command.Submits statement) :
    server.movesTo? statement = none := by
  cases command with
  | connect config => cases hSubmits
  | disconnect => cases hSubmits
  | switchDatabase database => cases hSubmits
  | listDatabases =>
      rw [hSubmits]
      exact hLawful.listDatabases
  | listTables =>
      rw [hSubmits]
      exact hLawful.listTables
  | describeTable table schema? =>
      rw [hSubmits]
      exact hLawful.describeTable
  | executeQuery sql limit => exact hStays statement hSubmits

end Command

namespace Place

/-
  Where a session is after a command: opening it leads where
  the connection string does, a switch to the escaped name,
  and a command that fails leads nowhere else.
-/
def next
    (settings : Settings)
    (place : Option Place) :
    Command × Bool → Option Place
  | (.connect config, true) =>
      some (.ofConfig settings config
        (config.databaseFor .sqlServer))
  | (.disconnect, _) => none
  | (.switchDatabase database, true) => ofName? database
  | _ => place

/- Where a session is after commands, of which some ended
   well. -/
def ofOutcomes
    (settings : Settings)
    (outcomes : List (Command × Bool)) : Option Place :=
  outcomes.foldl (next settings) none

end Place

------------------------------------------------------------
-- Settled Sessions
------------------------------------------------------------

/-
  Between two turns a session is closed and reports nothing,
  or it is placed on a pool that was made before.
-/
inductive Session.Settled
    (s : Session)
    (nextPool : Nat)
    (f : Fleet) : Prop where
  | closed
      (hEngine : s.engine = .sqlServer)
      (hConnected : s.connected = false)
      (hReports : s.reportedPlace? = none)
  | placed
      {pool : Nat}
      (hConnected : s.connected = true)
      (hPool : pool < nextPool)
      (hPlaced : s.Placed pool f)

namespace Session

variable {s : Session}
variable {f f' : Fleet}
variable {n n' : Nat}

/- A settled session is one with SQL Server. -/
theorem Settled.engine_eq
    (hSettled : s.Settled n f) :
    s.engine = .sqlServer := by
  cases hSettled with
  | closed hEngine => exact hEngine
  | placed hConnected hPool hPlaced =>
      exact hPlaced.engine_eq

/- A session stays settled while the connections of the
   earlier pools stay where they are. -/
theorem Settled.of_place
    (hSettled : s.Settled n f)
    (hNext : n ≤ n')
    (hPlace :
      s.switched = false →
        ∀ pool < n, f'.place pool = f.place pool) :
    s.Settled n' f' := by
  cases hSettled with
  | closed hEngine hConnected hReports =>
      exact .closed hEngine hConnected hReports
  | placed hConnected hPool hPlaced =>
      apply Settled.placed hConnected
      · exact Nat.lt_of_lt_of_le hPool hNext
      · apply hPlaced.of_place
        intro hSwitched
        exact hPlace hSwitched _ hPool

end Session

namespace Command

variable {server : Server}
variable {s : Session}
variable {f : Fleet}
variable {w : World}
variable {pool : Nat}

/- A query of an open session sends one statement, where the
   session is placed. -/
theorem query_queried
    {command : Command}
    (hQuery : command.isQuery = true)
    (hLawful : server.Lawful)
    (hStays : command.Stays server)
    (hConnected : s.connected = true)
    (hPlaced : s.Placed pool f)
    (hScript : f.script = w.script) :
    ∃ operation,
      Session.Queried server s command.Submits
        (Failure.wrappedBy (.operationFailed operation)) f w
        (command.onSession.run s w) := by
  have hMoves : ∀ statement, command.Submits statement →
      server.movesTo? statement = none :=
    fun statement => movesTo?_of_submits hLawful hStays
  cases command with
  | connect config => cases hQuery
  | disconnect => cases hQuery
  | switchDatabase database => cases hQuery
  | listDatabases =>
      have hSubmits : Submits .listDatabases
          (CatalogQuery.listDatabases s.engine) := by
        rw [hPlaced.engine_eq]
        rfl
      refine ⟨.listDatabases, Session.Queried.discard ?_⟩
      apply Session.catalog_queried hLawful hConnected
        hPlaced hScript
      · exact hSubmits
      · exact hMoves _ hSubmits
  | listTables =>
      have hSubmits : Submits .listTables
          (CatalogQuery.listTables s.engine) := by
        rw [hPlaced.engine_eq]
        rfl
      refine ⟨.listTables, Session.Queried.discard ?_⟩
      apply Session.catalog_queried hLawful hConnected
        hPlaced hScript
      · exact hSubmits
      · exact hMoves _ hSubmits
  | describeTable table schema? =>
      have hSubmits : Submits (.describeTable table schema?)
          (CatalogQuery.describeTable s.engine) := by
        rw [hPlaced.engine_eq]
        rfl
      refine
        ⟨.describeTable
            (Session.schemaFor s.engine schema?) table,
          Session.Queried.discard ?_⟩
      apply Session.catalog_queried hLawful hConnected
        hPlaced hScript
      · exact hSubmits
      · exact hMoves _ hSubmits
  | executeQuery sql limit =>
      refine ⟨.executeQuery, Session.Queried.discard ?_⟩
      apply Session.executeQuery_queried hLawful hConnected
        hPlaced hScript
      intro statement hCapped
      exact ⟨hCapped, hMoves statement hCapped⟩

/-
  What a command leaves of a settled session: it is settled
  again, and reports the place where the command leads.
-/
structure LeavesSettled
    (server : Server)
    (s : Session)
    (f : Fleet)
    (w : World)
    (command : Command)
    (out : Outcome Session Unit) : Prop where
  settings_eq : out.state.settings = s.settings
  reports_eq :
    out.state.reportedPlace? =
      Place.next s.settings s.reportedPlace?
        (command, out.result.isOk)
  settled :
    ∃ f', f.Becomes server w out.world f' ∧
      out.state.Settled out.world.nextPool f'

/- What leaves the session as it was, and all connections of
   its pool if it was not switched, leaves it settled. -/
theorem leavesSettled_of_same
    {command : Command}
    {out : Outcome Session Unit}
    {f' : Fleet}
    (hSettled : s.Settled w.nextPool f)
    (hState : out.state = s)
    (hNext : w.nextPool ≤ out.world.nextPool)
    (hBecomes : f.Becomes server w out.world f')
    (hPlace :
      s.switched = false →
        ∀ pool < w.nextPool, f'.place pool = f.place pool)
    (hReported :
      Place.next s.settings s.reportedPlace?
          (command, out.result.isOk) =
        s.reportedPlace?) :
    LeavesSettled server s f w command out where
  settings_eq := by rw [hState]
  reports_eq := by rw [hState, hReported]
  settled := by
    rw [hState]
    exact ⟨f', hBecomes, hSettled.of_place hNext hPlace⟩

/- A command on a closed session that needs an open one. -/
theorem leavesSettled_of_closed
    {command : Command}
    (hNeeds : command.needsSession = true)
    (hConnected : s.connected = false)
    (hSettled : s.Settled w.nextPool f) :
    LeavesSettled server s f w command
      (command.onSession.run s w) := by
  rw [onSession_of_closed hNeeds hConnected w]
  apply leavesSettled_of_same hSettled rfl
    (Nat.le_refl w.nextPool) (.ofSameEvents rfl)
  · intro _ pool _
    rfl
  · cases command with
    | disconnect => cases hNeeds
    | _ => rfl

/- A query leaves the session as it was. -/
theorem query_leavesSettled
    {command : Command}
    (hQuery : command.isQuery = true)
    (hLawful : server.Lawful)
    (hStays : command.Stays server)
    (hSettled : s.Settled w.nextPool f)
    (hScript : f.script = w.script) :
    LeavesSettled server s f w command
      (command.onSession.run s w) := by
  have hStart := hSettled
  cases hStart with
  | closed hEngine hConnected hReports =>
      exact leavesSettled_of_closed
        (needsSession_of_isQuery hQuery) hConnected hSettled
  | placed hConnected hPool hPlaced =>
      rcases query_queried hQuery hLawful hStays hConnected
          hPlaced hScript with
        ⟨operation, hState, hNext, f', ran, hBecomes, -,
          hPlace, -⟩
      apply leavesSettled_of_same hSettled hState
        (Nat.le_of_eq hNext.symm) hBecomes
      · intro hSwitched other _
        rw [hPlace hSwitched]
      · cases command with
        | connect config => cases hQuery
        | disconnect => cases hQuery
        | switchDatabase database => cases hQuery
        | _ => rfl

/- Opening the session leads where the connection string
   does, or nowhere else. -/
theorem connect_leavesSettled
    (hLawful : server.Lawful)
    (hSettled : s.Settled w.nextPool f)
    (config : ConnectionConfig) :
    LeavesSettled server s f w (.connect config)
      ((Session.connect config).run s w) := by
  have hEngine := hSettled.engine_eq
  rcases Session.connect_places hLawful hEngine f w config
    with ⟨hNext, f', hBecomes, hEarlier, hOpened⟩
  rcases Session.connect_leads config s w with
    ⟨hOk, hState, -⟩ | ⟨e, hError, hState, -⟩
  · rcases hOpened hOk with ⟨hMade, hOwn⟩
    rw [hEngine] at hState
    constructor
    · rw [hState]
      rfl
    · rw [hState, hOk]
      rfl
    · refine ⟨f', hBecomes, ?_⟩
      rw [hState]
      apply Session.Settled.placed rfl hMade
      constructor
      · exact hEngine
      · rfl
      · rfl
      · intro _ c
        rw [hOwn c]
        rfl
  · apply leavesSettled_of_same hSettled hState hNext
      hBecomes
    · intro _
      exact hEarlier
    · rw [hError]
      rfl

theorem disconnect_leavesSettled
    (hSettled : s.Settled w.nextPool f) :
    LeavesSettled server s f w .disconnect
      (Session.disconnect.run s w) := by
  have hState := (Session.disconnect_leads s w).1
  have hSends :
      Keeps (fun _ => True) (Progress.sending fun _ _ => True)
        Session.disconnect :=
    Session.disconnect_sends
  rcases (hSends s w trivial).2 with ⟨events, hEvents, -⟩
  constructor
  · rw [hState]
    rfl
  · rw [hState]
    rfl
  · refine ⟨_, ⟨events, hEvents, rfl⟩, ?_⟩
    rw [hState]
    exact .closed hSettled.engine_eq rfl rfl

/- A switch leads to the escaped name, or nowhere else. -/
theorem switchDatabase_leavesSettled
    (hSettled : s.Settled w.nextPool f)
    (hScript : f.script = w.script)
    (server : Server)
    (database : String) :
    LeavesSettled server s f w (.switchDatabase database)
      ((Session.switchDatabase database).run s w) := by
  have hStart := hSettled
  cases hStart with
  | closed hEngine hConnected hReports =>
      have hNeeds :
          (switchDatabase database).needsSession = true :=
        rfl
      exact leavesSettled_of_closed hNeeds hConnected
        hSettled
  | placed hConnected hPool hPlaced =>
      rw [Session.run_switchDatabase database hConnected w,
        hPlaced.engine_eq]
      rcases Session.switchInPlace_places hScript
          hPlaced.engine_eq server database with
        ⟨hNext, f', hBecomes, ⟨e, hError, hState, hPlace⟩ |
          ⟨hOk, hState, hReports⟩⟩
      · apply leavesSettled_of_same hSettled hState
          (Nat.le_of_eq hNext.symm) hBecomes
        · intro _ other _
          rw [hPlace]
        · rw [hError]
          rfl
      · have hReported :
            ((Session.switchInPlace database).run s
                w).state.reportedPlace? =
              Place.ofName? database := by
          rw [hState]
          simp [Session.reportedPlace?]
        constructor
        · rw [hState]
        · rw [hReported, hOk]
          rfl
        · refine ⟨f', hBecomes, ?_⟩
          rw [hNext]
          -- Only one connection was moved; of the others
          -- nothing is claimed once the session is switched.
          refine .placed ?_ hPool ?_
          · rw [hState]
            exact hConnected
          · constructor
            · rw [hState]
              exact hPlaced.engine_eq
            · rw [hState]
              exact hPlaced.pool_eq
            · rw [hReported]
              exact hReports
            · intro hNot
              rw [hState] at hNot
              cases hNot

/- Every command leaves a settled session settled. -/
theorem onSession_leavesSettled
    {command : Command}
    (hLawful : server.Lawful)
    (hStays : command.Stays server)
    (hSettled : s.Settled w.nextPool f)
    (hScript : f.script = w.script) :
    LeavesSettled server s f w command
      (command.onSession.run s w) := by
  by_cases hQuery : command.isQuery = true
  · exact query_leavesSettled hQuery hLawful hStays hSettled
      hScript
  · cases command with
    | connect config =>
        exact connect_leavesSettled hLawful hSettled config
    | disconnect => exact disconnect_leavesSettled hSettled
    | switchDatabase database =>
        exact switchDatabase_leavesSettled hSettled hScript
          server database
    | _ => simp [isQuery] at hQuery

end Command

end SqlGateway
