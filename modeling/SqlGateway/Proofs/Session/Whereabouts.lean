import SqlGateway.Proofs.Session.Placing

/-
  This file shows, operation by operation, where the
  connections of a session with SQL Server are afterwards,
  and where the statement of a query ran.

  Main declarations:
    * `Session.catalog_queried`
    * `Session.executeQuery_queried`
    * `Session.connect_places`
    * `Session.switchInPlace_places`
-/

namespace SqlGateway

open Act (Keeps)

/- What follows an action may be a result only. -/
theorem Act.run_bind_ofExcept
    {σ α β : Type}
    (act : Act σ α)
    (next : α → Except Failure β)
    (s : σ)
    (w : World) :
    (act >>= fun a => Act.ofExcept (next a)).run s w =
      ⟨(act.run s w).result >>= next, (act.run s w).state,
        (act.run s w).world⟩ := by
  cases hResult : (act.run s w).result with
  | ok a =>
      rw [Act.run_bind_of_ok hResult, Act.run_ofExcept]
      rfl
  | error e =>
      rw [Act.run_bind_of_error hResult]
      rfl

namespace Session

variable {server : Server}
variable {s : Session}
variable {f : Fleet}
variable {w : World}
variable {pool : Nat}
variable {submitted : String → Prop}

------------------------------------------------------------
-- Queries
------------------------------------------------------------

theorem fetch_queried
    {statement : String}
    (hLawful : server.Lawful)
    (hPlaced : s.Placed pool f)
    (hScript : f.script = w.script)
    (hSubmitted : submitted statement)
    (hStays : server.movesTo? statement = none)
    (parameters : List Value) :
    Queried server s submitted id f w
      ((fetch statement parameters).run s w) := by
  unfold fetch
  rw [Act.run_state_bind, hPlaced.engine_eq]
  apply send_queried hLawful hPlaced hScript hSubmitted
    hStays
  intro reply
  apply Keeps.bind (.discard (.ofExcept _))
  intro _
  exact fetchAll_idle .sqlServer reply

/- An operation on the catalog sends one statement, and may
   only then be dissatisfied with the rows. -/
theorem catalog_queried
    {α : Type}
    {operation : Session → Operation}
    {statement : Session → String}
    {parameters : Session → List Value}
    {read : List Fields → Except Failure α}
    (hLawful : server.Lawful)
    (hConnected : s.connected = true)
    (hPlaced : s.Placed pool f)
    (hScript : f.script = w.script)
    (hSubmitted : submitted (statement s))
    (hStays : server.movesTo? (statement s) = none) :
    Queried server s submitted
      (Failure.wrappedBy (.operationFailed (operation s))) f w
      ((do
        requireConnected
        let session ← Act.state
        let rows ← Act.wrapping
          (.operationFailed (operation session))
          (fetch (statement session) (parameters session))
        Act.ofExcept (read rows) : Act Session α).run s
          w) := by
  rw [run_requireConnected_bind hConnected,
    Act.run_state_bind, Act.run_bind_ofExcept,
    Act.run_wrapping]
  have hFetch := fetch_queried hLawful hPlaced hScript
    hSubmitted hStays (parameters s)
  exact (hFetch.wrapped _).andThen read

/- Reading the result of a reply moves nothing and runs
   nothing. -/
theorem resultOf_idle
    {inv : Session → Prop}
    (engine : Engine)
    (reply : Reply) :
    Keeps inv (Progress.idle server)
      (resultOf engine reply) := by
  unfold resultOf
  cases reply.columns with
  | none => exact .pure _
  | some columns =>
      apply Keeps.bind (fetchAll_idle engine reply)
      intro rows
      exact .pure _

/- Executing a statement sends it as it is capped, unless it
   cannot be capped. -/
theorem executeQuery_queried
    {sql : String}
    {limit : Value}
    (hLawful : server.Lawful)
    (hConnected : s.connected = true)
    (hPlaced : s.Placed pool f)
    (hScript : f.script = w.script)
    (hSubmitted : ∀ statement,
      cappedStatement .sqlServer sql limit = .ok statement →
        submitted statement ∧
          server.movesTo? statement = none) :
    Queried server s submitted
      (Failure.wrappedBy (.operationFailed .executeQuery)) f w
      ((executeQuery sql limit).run s w) := by
  cases hCapped : cappedStatement .sqlServer sql limit with
  | error e =>
      rw [← hPlaced.engine_eq] at hCapped
      rw [run_executeQuery_of_error hConnected hCapped w]
      refine ⟨rfl, rfl, f, [], .ofSameEvents rfl, ?_, ?_, ?_⟩
      · rw [List.append_nil]
      · intro _
        rfl
      · exact .unsent e
  | ok statement =>
      rcases hSubmitted statement hCapped with
        ⟨hSent, hStays⟩
      rw [← hPlaced.engine_eq] at hCapped
      rcases run_executeQuery hConnected hCapped w with
        ⟨logs, hOut⟩
      rw [hOut, hPlaced.engine_eq, Act.run_wrapping]
      have hQueried :
          Queried server s submitted id f { w with logs }
            ((sendStatement .sqlServer statement).run s
              { w with logs }) :=
        send_queried hLawful hPlaced hScript hSent hStays
          (resultOf_idle .sqlServer)
      have hWrapped := hQueried.wrapped
        (Failure.wrappedBy (.operationFailed .executeQuery))
      exact ⟨hWrapped.state_eq, hWrapped.nextPool_eq,
        hWrapped.ran⟩

------------------------------------------------------------
-- Opening
------------------------------------------------------------

/- Trying a pool moves no connection, nor does releasing
   it. -/
theorem tryOrRelease_unmoved
    {inv : Session → Prop}
    (hLawful : server.Lawful)
    (pool : Nat) :
    Keeps inv (Progress.unmoved server)
      (tryOrRelease .sqlServer pool) := by
  have hTry :
      Keeps inv (Progress.unmoved server)
        (tryPool .sqlServer pool) := by
    apply Keeps.bind
    · apply Driver.acquire_keeps
      apply Progress.unmoved_admits
      intro f
      exact Fleet.place_taking server f pool
    · intro _
      apply Keeps.discard
      apply Driver.execute_keeps
      apply Progress.unmoved_admits
      intro f
      exact Fleet.place_executing_of_stays server f
        hLawful.probe
  have hRelease :
      Keeps inv (Progress.unmoved server)
        (Driver.releasePool .sqlServer pool) := by
    apply Driver.releasePool_keeps
    · exact Progress.unmoved_admits fun _ => rfl
    · exact Progress.unmoved_admits fun _ => rfl
  apply Keeps.rescue hTry
  intro e
  apply Keeps.bind hRelease
  intro _
  exact .fail _

/- Making a pool moves no connection of another, and all of
   its own are where its connection string opens. -/
theorem makePool_places
    (server : Server)
    (s : Session)
    (f : Fleet)
    (w : World)
    (config : ConnectionConfig)
    (database : Value) :
    let out := (makePool .sqlServer config database).run s w
    ∃ f', f.Becomes server w out.world f' ∧
      ((∃ e, out.result = .error e ∧
          out.world.nextPool = w.nextPool ∧
          f'.place = f.place) ∨
        (out.result = .ok w.nextPool ∧
          out.world.nextPool = w.nextPool + 1 ∧
          (∀ pool ≠ w.nextPool,
            f'.place pool = f.place pool) ∧
          ∀ c, f'.place w.nextPool c =
            .ofConfig s.settings config database)) := by
  intro out
  let connectionString :=
    AttributeString.sessionString s.settings.odbcDriver
      config database
  have hOut :
      out =
        (Act.wrapping (.openingFailed .sqlServer)
          (Driver.createOdbcPool connectionString
            (odbcPoolOptions
              s.settings.poolMaxSize))).run s w :=
    rfl
  rw [Act.run_wrapping, Driver.run_createOdbcPool] at hOut
  cases hError : w.script.createError with
  | some e =>
      rw [hError] at hOut
      rw [hOut]
      refine ⟨_, .ofEmitted _ rfl, .inl ⟨_, rfl, rfl, rfl⟩⟩
  | none =>
      rw [hError] at hOut
      rw [hOut]
      refine ⟨_, ⟨_, rfl, rfl⟩, .inr ⟨rfl, rfl, ?_, ?_⟩⟩
      · intro pool hOther
        funext c
        exact if_neg hOther
      · intro c
        exact if_pos rfl

/-
  Opening a session moves no connection of an earlier pool.
  If it ends well, all connections of the new pool are where
  its connection string opens.
-/
theorem connect_places
    (hLawful : server.Lawful)
    (hEngine : s.engine = .sqlServer)
    (f : Fleet)
    (w : World)
    (config : ConnectionConfig) :
    let database := config.databaseFor .sqlServer
    let out := (connect config).run s w
    w.nextPool ≤ out.world.nextPool ∧
      ∃ f', f.Becomes server w out.world f' ∧
        (∀ pool < w.nextPool,
          f'.place pool = f.place pool) ∧
        (out.result = .ok () →
          w.nextPool < out.world.nextPool ∧
            ∀ c, f'.place w.nextPool c =
              .ofConfig s.settings config database) := by
  intro database out
  have hOut : out = _ := run_connect hEngine config w
  rcases makePool_places server s f w config database with
    ⟨f₁, hBecomes, ⟨e, hError, hNext, hPlace⟩ |
      ⟨hOk, hNext, hOthers, hOwn⟩⟩
  · rw [Act.run_bind_of_error hError] at hOut
    rw [hOut]
    refine ⟨Nat.le_of_eq hNext.symm, f₁, hBecomes, ?_, ?_⟩
    · intro pool _
      rw [hPlace]
    · intro hFalse
      cases hFalse
  · rw [Act.run_bind_of_ok hOk] at hOut
    -- All that follows moves nothing, whichever way the trial
    -- of the pool ends.
    have hRest :
        Keeps (fun _ => True) (Progress.unmoved server) (do
          tryOrRelease .sqlServer w.nextPool
          Act.update fun session =>
            session.opened w.nextPool database config
          Act.log .info
            (connectedText .sqlServer config database) :
          Act Session Unit) := by
      apply Keeps.bind (tryOrRelease_unmoved hLawful _)
      intro _
      apply Keeps.bind (.update fun _ _ => trivial)
      intro _
      exact .log _ _
    rcases (hRest
        ((makePool .sqlServer config database).run s w).state
        ((makePool .sqlServer config database).run s w).world
        trivial).2 with
      ⟨hPools, hUnmoved⟩
    rcases hUnmoved f₁ with ⟨f₂, hOn, hPlace⟩
    rw [← hOut, hNext] at hPools
    rw [← hOut] at hOn
    refine ⟨by omega, f₂, hBecomes.trans hOn, ?_, ?_⟩
    · intro pool hOld
      rw [hPlace]
      exact hOthers pool (Nat.ne_of_lt hOld)
    · intro _
      refine ⟨by omega, ?_⟩
      rw [hPlace]
      exact hOwn

------------------------------------------------------------
-- Switching
------------------------------------------------------------

/- Sending the statement of a switch moves no connection,
   unless it ends well. -/
theorem sendOnly_places
    (hScript : f.script = w.script)
    (server : Server)
    (s : Session)
    (statement : String) :
    let out := (sendOnly .sqlServer statement).run s w
    out.world.nextPool = w.nextPool ∧
      ∃ f', f.Becomes server w out.world f' ∧
        ((∃ e, out.result = .error e ∧ f'.place = f.place) ∨
          out.result = .ok ()) := by
  intro out
  cases hPool : s.pool with
  | none =>
      have hOut : out = ⟨.error .noPool, s, w⟩ :=
        run_poolNumber_bind_of_none hPool _ w
      rw [hOut]
      exact ⟨rfl, f, .ofSameEvents rfl, .inl ⟨_, rfl, rfl⟩⟩
  | some pool =>
      have hOut :
          out =
            (Driver.acquire .sqlServer pool >>= fun _ =>
              (discard (Driver.execute statement (some [])) :
                Act Session Unit)).run s w :=
        run_poolNumber_bind hPool _ w
      rcases Driver.acquire_runs server hScript
          .sqlServer pool s with
        ⟨hState, hTaken, ⟨hOk, -⟩ | ⟨e, hError⟩⟩
      · rw [Act.run_bind_of_ok hOk, hState] at hOut
        rcases Driver.execute_runs server
            hTaken.script_eq statement (some []) s with
          ⟨-, hRuns, ⟨⟨reply, hSent⟩, -⟩ |
            ⟨e, hFailed, hReply⟩⟩
        · rw [hOut, Act.run_discard, hSent]
          have hBoth := hTaken.trans hRuns
          exact
            ⟨hBoth.nextPool_eq, _, hBoth.becomes, .inr rfl⟩
        · rw [hOut, Act.run_discard, hFailed]
          have hBoth := hTaken.trans hRuns
          refine
            ⟨hBoth.nextPool_eq, _, hBoth.becomes,
              .inl ⟨e, rfl, ?_⟩⟩
          rw [Fleet.place_executing_of_error server _
              statement hReply, Fleet.place_taking]
      · rw [Act.run_bind_of_error hError] at hOut
        rw [hOut]
        refine ⟨hTaken.nextPool_eq, _, hTaken.becomes, ?_⟩
        exact .inl ⟨e, rfl, Fleet.place_taking server f pool⟩

/-
  Switching in place moves one connection and reports the
  escaped name, or fails and leaves the session and all
  connections as they were.
-/
theorem switchInPlace_places
    (hScript : f.script = w.script)
    (hEngine : s.engine = .sqlServer)
    (server : Server)
    (database : String) :
    let out := (switchInPlace database).run s w
    out.world.nextPool = w.nextPool ∧
      ∃ f', f.Becomes server w out.world f' ∧
        ((∃ e, out.result = .error e ∧ out.state = s ∧
            f'.place = f.place) ∨
          (out.result = .ok () ∧
            out.state = { s with
              database := .text database
              switched := true } ∧
            (Place.ofName? database).isSome = true)) := by
  intro out
  cases hUse : useStatement database with
  | error e =>
      have hOut : out = ⟨.error e, s, w⟩ := by
        simp only [out, switchInPlace, Act.run_state_bind,
          hUse, Act.run_ofExcept_error_bind]
      rw [hOut]
      exact
        ⟨rfl, f, .ofSameEvents rfl,
          .inl ⟨e, rfl, rfl, rfl⟩⟩
  | ok statement =>
      have hState := switchInPlace_state database s w
      have hOut :
          out = (do
            Act.wrapping
              (.operationFailed (.switchDatabase database))
              (sendOnly .sqlServer statement)
            Act.update fun session =>
              { session with
                database := .text database
                switched := true }
            Act.log .info
              ("Switched MSSQL session to database '" ++
                database ++ "'") :
            Act Session Unit).run s w := by
        simp only [out, switchInPlace, Act.run_state_bind,
          hUse, Act.run_ofExcept_ok_bind, hEngine]
      have hReports :
          (Place.ofName? database).isSome = true := by
        rcases eq_of_useStatement hUse with ⟨name, hName, -⟩
        rw [hName]
        rfl
      rcases sendOnly_places hScript server s statement with
        ⟨hNext, f', hBecomes, ⟨e, hError, hPlace⟩ | hOk⟩
      · rw [Act.run_wrapping_bind_of_error hError] at hOut
        rcases hState with ⟨hFalse, -⟩ | ⟨e', hFailed, hSame⟩
        · rw [show (switchInPlace database).run s w = _ from
            hOut] at hFalse
          cases hFalse
        · refine ⟨by rw [hOut]; exact hNext, f', ?_, ?_⟩
          · rw [hOut]
            exact hBecomes
          · exact .inl ⟨e', hFailed, hSame, hPlace⟩
      · rw [Act.run_wrapping_bind_of_ok hOk] at hOut
        rcases hState with ⟨hDone, hSame⟩ | ⟨e', hFalse, -⟩
        · refine ⟨by rw [hOut]; exact hNext, f', ?_, ?_⟩
          · rw [hOut]
            exact hBecomes
          · exact .inr ⟨hDone, hSame, hReports⟩
        · rw [show (switchInPlace database).run s w = _ from
            hOut] at hFalse
          cases hFalse

end Session

end SqlGateway
