import SqlGateway.Proofs.Driver.Pools
import SqlGateway.Proofs.Driver.Scripted
import SqlGateway.Proofs.Session.Statements

/-
  This file shows what opening, closing and switching a
  session leave: the session and its pool, on success and on
  every failure.

  Key definitions include:
    * `Session.Sound`
    * `Session.Switched`

  Main declarations:
    * `Session.connect_leads`
    * `Session.disconnect_leads`
    * `Session.switchDatabase_switched`
-/

namespace SqlGateway

theorem Progress.poolless_carries :
    Progress.poolless.Carries fun _ _ => True where
  acquire _ _ := poolless_admits rfl rfl
  execute _ _ _ := poolless_admits rfl rfl
  fetchAll := poolless_admits rfl rfl
  use _ _ := trivial

namespace Session

------------------------------------------------------------
-- Sessions and Pools
------------------------------------------------------------

/-
  A session as it is in use: a pool and a configuration are
  there when it is open, and only then.
-/
structure Sound (session : Session) : Prop where
  pool_isSome : session.pool.isSome = session.connected
  config_isSome : session.config.isSome = session.connected

theorem closed_sound (session : Session) :
    session.closed.Sound :=
  ⟨rfl, rfl⟩

theorem opened_sound
    (session : Session)
    (pool : Nat)
    (database : Value)
    (config : ConnectionConfig) :
    (session.opened pool database config).Sound :=
  ⟨rfl, rfl⟩

/- A PostgreSQL pool is made with the connection string, if
   there is one. -/
theorem run_makePool_postgres
    (config : ConnectionConfig)
    (database : Value)
    (s : Session)
    (w : World) :
    (makePool .postgres config database).run s w =
      match KeywordString.sessionString config database with
      | .ok connectionString =>
          (Driver.createPostgresPool connectionString
            (postgresPoolOptions
              s.settings.poolMaxSize)).run s w
      | .error e =>
          ⟨.error e, s,
            w.raising (.makePool .postgres) e⟩ := by
  simp only [makePool, Act.run_state_bind]
  cases KeywordString.sessionString config database with
  | ok connectionString => rfl
  | error e => rfl

/- Making a pool fails without one, or holds the next
   one. -/
theorem makePool_leads
    (engine : Engine)
    (config : ConnectionConfig)
    (database : Value)
    (s : Session)
    (w : World) :
    let out := (makePool engine config database).run s w
    out.state = s ∧
      ((∃ e, out.result = .error e ∧
          w.Leads none out.world none) ∨
        (out.result = .ok w.nextPool ∧
          w.Leads none out.world (some w.nextPool))) := by
  intro out
  cases engine with
  | postgres =>
      have hOut : out = _ :=
        run_makePool_postgres config database s w
      cases hString :
          KeywordString.sessionString config database with
      | error e =>
          rw [hOut, hString]
          refine ⟨rfl, .inl ⟨e, rfl, ?_⟩⟩
          exact .ofSameCalls ⟨rfl, rfl, .refl _⟩ none
      | ok connectionString =>
          rw [hOut, hString]
          exact Driver.createPostgresPool_leads _ _ s w
  | sqlServer =>
      have hPool :=
        Driver.createOdbcPool_leads
          (AttributeString.sessionString
            s.settings.odbcDriver config database)
          (odbcPoolOptions s.settings.poolMaxSize) s w
      simp only [out, makePool, Act.run_state_bind,
        Act.run_wrapping]
      rcases hPool with
        ⟨hState, ⟨e, hError, hLeads⟩ | ⟨hOk, hLeads⟩⟩
      · have hWrapped := congrArg
          (Except.mapError (Failure.wrappedBy
            (.openingFailed .sqlServer))) hError
        exact ⟨hState, .inl ⟨_, hWrapped, hLeads⟩⟩
      · refine ⟨hState, .inr ⟨?_, hLeads⟩⟩
        rw [hOk]
        rfl

theorem tryPool_keeps
    {inv : Session → Prop}
    {progress : Progress}
    {kind : String → List Value → Prop}
    {engine : Engine}
    {pool : Nat}
    (hCarries : progress.Carries kind)
    (hOpen :
      progress.Admits (.openPool pool true connectTimeout))
    (hProbe : kind CatalogQuery.probe []) :
    Act.Keeps inv progress (tryPool engine pool) := by
  unfold tryPool
  have hAcquire := hCarries.acquire engine pool
  cases engine with
  | postgres =>
      refine .bind (Driver.openPool_keeps hOpen) fun _ => ?_
      refine .bind (Driver.acquire_keeps hAcquire) fun _ => ?_
      exact .discard
        (Driver.execute_keeps (hCarries.execute _ _ hProbe))
  | sqlServer =>
      refine .bind (Driver.acquire_keeps hAcquire) fun _ => ?_
      exact .discard
        (Driver.execute_keeps (hCarries.execute _ _ hProbe))

/- A pool that is tried stays as it is. -/
theorem tryPool_leads
    (engine : Engine)
    (pool : Nat)
    (s : Session)
    (w : World) :
    let out := (tryPool engine pool).run s w
    out.state = s ∧
      w.Leads (some pool) out.world (some pool) := by
  have hKeeps :
      Act.Keeps (· = s) Progress.poolless
        (tryPool engine pool) :=
    tryPool_keeps Progress.poolless_carries
      (Progress.poolless_admits rfl rfl) trivial
  have hOut := hKeeps s w rfl
  exact ⟨hOut.1, hOut.2 (some pool)⟩

theorem tryPool_scripted
    (engine : Engine)
    (pool : Nat) :
    Act.Scripted (tryPool engine pool) := by
  unfold tryPool
  cases engine with
  | postgres =>
      apply Act.Scripted.bind (Driver.openPool_scripted pool _ _)
      intro _
      apply Act.Scripted.bind (Driver.acquire_scripted _ pool)
      intro _
      exact .discard (Driver.execute_scripted _ _)
  | sqlServer =>
      apply Act.Scripted.bind (Driver.acquire_scripted _ pool)
      intro _
      exact .discard (Driver.execute_scripted _ _)

/- Releasing a pool and failing then leaves no pool, however
   the release ends. -/
private theorem releaseThenFail_leads
    (engine : Engine)
    (pool : Nat)
    (e : Failure)
    (s : Session)
    (w : World) :
    let out :=
      (Driver.releasePool engine pool >>= fun _ =>
        (Act.fail e : Act Session Unit)).run s w
    out.state = s ∧
      (∃ e', out.result = .error e') ∧
      w.Leads (some pool) out.world none := by
  intro out
  rcases Driver.releasePool_leads engine pool s w with
    ⟨hState, hLeads⟩
  cases hResult :
      ((Driver.releasePool engine pool).run s w).result with
  | ok a =>
      simp only [out, Act.run_bind_of_ok hResult, Act.run_fail]
      exact ⟨hState, ⟨e, rfl⟩, hLeads⟩
  | error e' =>
      simp only [out, Act.run_bind_of_error hResult]
      exact ⟨hState, ⟨e', rfl⟩, hLeads⟩

/-
  A new pool is held if its trial ends well.  If the trial
  fails it is closed again, unless the failure ends the run.
-/
theorem tryOrRelease_leads
    (engine : Engine)
    (pool : Nat)
    (s : Session)
    (w : World) :
    let out := (tryOrRelease engine pool).run s w
    out.state = s ∧
      ((out.result = .ok () ∧
          w.Leads (some pool) out.world (some pool)) ∨
        ∃ e, out.result = .error e ∧
          (w.Leads (some pool) out.world none ∨
            (e.endsRun = true ∧ w.script.Raises e ∧
              w.Leads (some pool) out.world
                (some pool)))) := by
  intro out
  rcases tryPool_leads engine pool s w with
    ⟨hState, hLeads⟩
  cases hResult : ((tryPool engine pool).run s w).result with
  | ok a =>
      simp only [out, tryOrRelease,
        Act.run_rescue_of_ok hResult]
      exact ⟨hState, .inl ⟨hResult, hLeads⟩⟩
  | error e =>
      simp only [out, tryOrRelease,
        Act.run_rescue_of_error hResult]
      cases hEnds : e.endsRun with
      | true =>
          simp only [if_true]
          have hRaises :=
            (tryPool_scripted engine pool s w).2 e hResult
          exact
            ⟨hState,
              .inr ⟨e, hResult,
                .inr ⟨hEnds, hRaises, hLeads⟩⟩⟩
      | false =>
          simp only [Bool.false_eq_true, if_false]
          rcases releaseThenFail_leads engine pool
              (.openingFailed engine e) _
              ((tryPool engine pool).run s w).world with
            ⟨hSame, ⟨e', hError⟩, hClosed⟩
          exact
            ⟨hSame.trans hState,
              .inr ⟨e', hError,
                .inl (hLeads.trans hClosed)⟩⟩

------------------------------------------------------------
-- Opening and Closing
------------------------------------------------------------

/- Opening a session: a pool is made, tried and taken. -/
theorem run_connect
    {s : Session}
    {engine : Engine}
    (hEngine : s.engine = engine)
    (config : ConnectionConfig)
    (w : World) :
    (connect config).run s w = (do
      let pool ← makePool engine config
        (config.databaseFor engine)
      tryOrRelease engine pool
      Act.update fun session =>
        session.opened pool (config.databaseFor engine) config
      Act.log .info
        (connectedText engine config
          (config.databaseFor engine)) :
      Act Session Unit).run s w := by
  subst hEngine
  exact Act.run_state_bind _ s w

/-
  A session that holds no pool is opened on the next one, or
  stays as it was.  A pool that was made in vain is closed
  again, unless the failure ends the run.
-/
theorem connect_leads
    (config : ConnectionConfig)
    (s : Session)
    (w : World) :
    let out := (connect config).run s w
    (out.result = .ok () ∧
        out.state = s.opened w.nextPool
          (config.databaseFor s.engine) config ∧
        w.Leads none out.world (some w.nextPool)) ∨
      ∃ e, out.result = .error e ∧ out.state = s ∧
        (w.Leads none out.world none ∨
          w.Strands none out.world e) := by
  intro out
  let database := config.databaseFor s.engine
  have hOut : out = _ := run_connect rfl config w
  rcases makePool_leads s.engine config database s w with
    ⟨hState, ⟨e, hError, hLeads⟩ | ⟨hOk, hLeads⟩⟩
  · rw [hOut, Act.run_bind_of_error hError]
    exact .inr ⟨e, rfl, hState, .inl hLeads⟩
  · rw [Act.run_bind_of_ok hOk, hState] at hOut
    rcases tryOrRelease_leads s.engine w.nextPool s
        ((makePool s.engine config database).run s
          w).world with
      ⟨hSame, ⟨hTried, hHeld⟩ | ⟨e, hError, hAfter⟩⟩
    · rw [hOut, Act.run_bind_of_ok hTried, hSame,
        Act.run_update_bind, Act.run_log]
      have hOpened := hLeads.trans hHeld
      have hLogged := hOpened.trans
        (.ofSameCalls ⟨rfl, rfl, .refl _⟩ _)
      exact .inl ⟨rfl, rfl, hLogged⟩
    · rw [hOut, Act.run_bind_of_error hError, hSame]
      refine .inr ⟨e, rfl, rfl, ?_⟩
      rcases hAfter with hClosed | ⟨hEnds, hRaises, hHeld⟩
      · exact .inl (hLeads.trans hClosed)
      · exact .inr
          ⟨hEnds, .of_leaves hLeads.script hRaises, _,
            Nat.le_refl _, hLeads.trans hHeld⟩

/- Closing a session leaves nothing of it, and its pool
   closed, even if that fails. -/
theorem disconnect_leads
    (s : Session)
    (w : World) :
    let out := disconnect.run s w
    out.state = s.closed ∧ w.Leads s.pool out.world none := by
  intro out
  cases hPool : s.pool with
  | none =>
      simp only [out, disconnect, Act.run_state_bind,
        Act.run_update_bind, hPool]
      exact ⟨rfl, .ofSameCalls ⟨rfl, rfl, .refl _⟩ none⟩
  | some pool =>
      simp only [out, disconnect, Act.run_state_bind,
        Act.run_update_bind, hPool, Act.run_wrapping]
      rcases Driver.releasePool_leads s.engine pool s.closed w
        with ⟨hState, hLeads⟩
      cases hResult :
          ((Driver.releasePool s.engine pool).run s.closed
            w).result with
      | ok a =>
          rw [Act.run_bind_of_ok hResult]
          refine ⟨hState, hLeads.trans ?_⟩
          exact .ofSameCalls ⟨rfl, rfl, .refl _⟩ none
      | error e =>
          rw [Act.run_bind_of_error hResult]
          exact ⟨hState, hLeads⟩

------------------------------------------------------------
-- Switching
------------------------------------------------------------

theorem switchInPlace_leads
    (database : String)
    (s : Session)
    (w : World)
    (held : Option Nat) :
    w.Leads held ((switchInPlace database).run s w).world
      held := by
  have hKeeps :
      Act.Keeps (fun _ => True) Progress.poolless
        (switchInPlace database) :=
    switchInPlace_keeps Progress.poolless_carries
      fun _ _ => trivial
  exact (hKeeps s w trivial).2 held

/- Switching in place changes the database, or fails and
   leaves the session as it was. -/
theorem switchInPlace_state
    (database : String)
    (s : Session)
    (w : World) :
    let out := (switchInPlace database).run s w
    (out.result = .ok () ∧
        out.state = { s with
          database := .text database
          switched := true }) ∨
      ∃ e, out.result = .error e ∧ out.state = s := by
  intro out
  cases hUse : useStatement database with
  | error e =>
      refine .inr ⟨e, ?_⟩
      simp only [out, switchInPlace, Act.run_state_bind, hUse]
      exact ⟨rfl, rfl⟩
  | ok statement =>
      have hSend :
          Act.Keeps (· = s) Progress.poolless
            (sendOnly s.engine statement) :=
        sendOnly_keeps Progress.poolless_carries trivial
      have hState := (hSend s w rfl).1
      simp only [out, switchInPlace, Act.run_state_bind,
        hUse, Act.run_ofExcept_ok_bind]
      cases hResult :
          ((sendOnly s.engine statement).run s w).result with
      | error e =>
          rw [Act.run_wrapping_bind_of_error hResult]
          exact .inr ⟨_, rfl, hState⟩
      | ok a =>
          rw [Act.run_wrapping_bind_of_ok hResult, hState]
          exact .inl ⟨rfl, rfl⟩

/- Reopening a session closes it and opens it again, with
   another database. -/
theorem run_reopen
    {s : Session}
    {config : ConnectionConfig}
    (hConfig : s.config = some config)
    (database : String)
    (w : World) :
    (reopen database).run s w = (do
      disconnect
      connect { config with database := .text database }
      Act.log .info
        ("Switched PostgreSQL session to database '" ++
          database ++ "' (reconnected)") :
      Act Session Unit).run s w := by
  simp only [reopen, Act.run_state_bind, hConfig]

/-
  Reopening a session closes its pool and holds a new one,
  or fails and leaves nothing of the session.
-/
theorem reopen_leads
    (database : String)
    {s : Session}
    {config : ConnectionConfig}
    (hConfig : s.config = some config)
    (w : World) :
    let config' :=
      { config with database := .text database }
    let out := (reopen database).run s w
    (out.result = .ok () ∧
        ∃ pool,
          out.state = s.closed.opened pool
            (config'.databaseFor s.engine) config' ∧
          w.Leads s.pool out.world (some pool)) ∨
      ∃ e, out.result = .error e ∧ out.state = s.closed ∧
        (w.Leads s.pool out.world none ∨
          w.Strands s.pool out.world e) := by
  intro config' out
  have hOut : out = _ := run_reopen hConfig database w
  rcases disconnect_leads s w with ⟨hState, hLeads⟩
  cases hResult : (disconnect.run s w).result with
  | error e =>
      rw [hOut, Act.run_bind_of_error hResult]
      exact .inr ⟨e, rfl, hState, .inl hLeads⟩
  | ok a =>
      rw [hOut, Act.run_bind_of_ok hResult, hState]
      rcases connect_leads config' s.closed
          (disconnect.run s w).world with
        ⟨hOk, hOpened, hHeld⟩ | ⟨e, hError, hClosed, hAfter⟩
      · rw [Act.run_bind_of_ok hOk]
        refine .inl ⟨rfl, _, hOpened, ?_⟩
        apply (hLeads.trans hHeld).trans
        exact .ofSameCalls ⟨rfl, rfl, .refl _⟩ _
      · rw [Act.run_bind_of_error hError]
        refine .inr ⟨e, rfl, hClosed, ?_⟩
        rcases hAfter with hNone | hStrands
        · exact .inl (hLeads.trans hNone)
        · exact .inr (hStrands.after hLeads)

/- An open session is switched in the manner of its
   engine. -/
theorem run_switchDatabase
    (database : String)
    {s : Session}
    (hConnected : s.connected = true)
    (w : World) :
    (switchDatabase database).run s w =
      match s.engine with
      | .sqlServer => (switchInPlace database).run s w
      | .postgres => (reopen database).run s w := by
  unfold switchDatabase
  rw [run_requireConnected_bind hConnected,
    Act.run_state_bind]
  cases s.engine with
  | sqlServer => rfl
  | postgres => rfl

/- A closed session is not switched. -/
theorem run_switchDatabase_of_closed
    (database : String)
    {s : Session}
    (hConnected : s.connected = false)
    (w : World) :
    (switchDatabase database).run s w =
      ⟨.error .notConnected, s, w⟩ := by
  unfold switchDatabase
  exact run_requireConnected_bind_of_closed hConnected _ w

/-
  All ways in which switching an open session ends.  On SQL
  Server its pool is kept in any case; on PostgreSQL a new
  pool takes its place, or the session is lost.
-/
inductive Switched
    (database : String)
    (s : Session)
    (w : World) : Outcome Session Unit → Prop where
  | moved
      {w' : World}
      (hEngine : s.engine = .sqlServer)
      (hLeads : w.Leads s.pool w' s.pool) :
      Switched database s w
        ⟨.ok (),
          { s with
            database := .text database
            switched := true }, w'⟩
  | unmoved
      {w' : World}
      {e : Failure}
      (hEngine : s.engine = .sqlServer)
      (hLeads : w.Leads s.pool w' s.pool) :
      Switched database s w ⟨.error e, s, w'⟩
  | reopened
      {w' : World}
      {pool : Nat}
      {config : ConnectionConfig}
      (hEngine : s.engine = .postgres)
      (hDatabase : config.database = .text database)
      (hLeads : w.Leads s.pool w' (some pool)) :
      Switched database s w
        ⟨.ok (),
          s.closed.opened pool
            (config.databaseFor .postgres) config, w'⟩
  | lost
      {w' : World}
      {e : Failure}
      (hEngine : s.engine = .postgres)
      (hLeads :
        w.Leads s.pool w' none ∨
          w.Strands s.pool w' e) :
      Switched database s w ⟨.error e, s.closed, w'⟩

theorem switchDatabase_switched
    (database : String)
    {s : Session}
    (hSound : s.Sound)
    (hConnected : s.connected = true)
    (w : World) :
    Switched database s w
      ((switchDatabase database).run s w) := by
  rw [run_switchDatabase database hConnected w]
  cases hEngine : s.engine with
  | sqlServer =>
      have hLeads := switchInPlace_leads database s w s.pool
      have hState := switchInPlace_state database s w
      cases hOut : (switchInPlace database).run s w with
      | mk result state world =>
          simp only [hOut] at hLeads hState
          rcases hState with ⟨rfl, rfl⟩ | ⟨e, rfl, rfl⟩
          · exact .moved hEngine hLeads
          · exact .unmoved hEngine hLeads
  | postgres =>
      have hConfig := hSound.config_isSome
      rw [hConnected] at hConfig
      rcases Option.isSome_iff_exists.mp hConfig with
        ⟨config, hConfig⟩
      have hReopen := reopen_leads database hConfig w
      cases hOut : (reopen database).run s w with
      | mk result state world =>
          simp only [hOut, hEngine] at hReopen
          rcases hReopen with
            ⟨rfl, pool, rfl, hLeads⟩ | ⟨e, rfl, rfl, hLeads⟩
          · exact .reopened hEngine rfl hLeads
          · exact .lost hEngine hLeads

/- However switching ends, the session is sound. -/
theorem Switched.sound
    {database : String}
    {s : Session}
    {w : World}
    {out : Outcome Session Unit}
    (hSwitched : Switched database s w out)
    (hSound : s.Sound) :
    out.state.Sound := by
  cases hSwitched with
  | moved =>
      exact ⟨hSound.pool_isSome, hSound.config_isSome⟩
  | unmoved => exact hSound
  | reopened => exact opened_sound _ _ _ _
  | lost => exact closed_sound _

end Session

end SqlGateway
