import Mathlib.Data.List.Induction
import SqlGateway.Proofs.Connections.Link
import SqlGateway.Proofs.Session.Coherent
import SqlGateway.Proofs.Session.History

/-
  This file shows that switching the database on PostgreSQL
  is opening anew: after any number of switches that end
  well, the session is the one that opening would give with
  the last database and all else as at first, and its pool
  was made by the same calls, the pool before it closed.

  Key definitions include:
    * `Script.Opens`
    * `Session.openingCalls` and `Session.OpensWith`
    * `SessionHistory.switching`
    * `SessionHistory.ClosesFirst` and `SessionHistory.Replayed`
    * `SessionHistory.LastOpened`
    * `SessionHistory.OpenedAnew`

  Main declarations:
    * `Session.connect_opens` and `Session.opens_of_connect`
    * `Session.reopen_opens`
    * `SessionHistory.replayed_switching`
    * `SessionHistory.switching_last`
    * `SessionHistory.switching_replays_connect`
-/

namespace SqlGateway

------------------------------------------------------------
-- Opening a PostgreSQL Session
------------------------------------------------------------

/- Two sessions have the same parameters but for the name of
   the database. -/
def KeywordString.SameButDatabase
    (parameters parameters' : List (String × Value)) : Prop :=
  ∀ (name : String) (value : Value), name ≠ "dbname" →
    ((name, value) ∈ parameters ↔
      (name, value) ∈ parameters')

theorem KeywordString.sameButDatabase
    (config : ConnectionConfig)
    (given database database' : Value) :
    SameButDatabase
      (sessionParameters { config with database := given }
        database')
      (sessionParameters config database) := by
  intro name value hName
  simp [sessionParameters, ConnectionConfig.portFor, hName]

/- Drivers with which a PostgreSQL session opens on a
   pool. -/
structure Script.Opens
    (script : Script)
    (pool : Nat) : Prop where
  constructs : script.constructError = none
  opens : script.openError pool = none
  hands : script.acquireError pool = none
  answers : script.reply.error = none

namespace Session

/- The calls by which a PostgreSQL session is opened. -/
def openingCalls
    (pool : Nat)
    (connectionString : String)
    (maxSize : Int) : List Event :=
  [.createPostgresPool pool connectionString
      (postgresPoolOptions maxSize),
   .openPool pool true connectTimeout,
   .acquire .postgres pool,
   .execute CatalogQuery.probe none]

/- What it takes to open a PostgreSQL session with a
   configuration. -/
structure OpensWith
    (settings : Settings)
    (config : ConnectionConfig)
    (connectionString : String)
    (script : Script)
    (pool : Nat) : Prop where
  written :
    KeywordString.sessionString config
        (config.databaseFor .postgres) =
      .ok connectionString
  room : ¬ settings.poolMaxSize < 1
  drivers : script.Opens pool

/- A trial on a pool that ends well. -/
theorem run_tryPool_of_opens
    {pool : Nat}
    {w : World}
    (hOpens : w.script.Opens pool)
    (s : Session) :
    (tryPool .postgres pool).run s w =
      ⟨.ok (), s,
        ((w.emitted (.openPool pool true connectTimeout)).emitted
          (.acquire .postgres pool)).executed
            CatalogQuery.probe none⟩ := by
  have hOpen :=
    Driver.run_openPool pool true connectTimeout s w
  rw [hOpens.opens] at hOpen
  have hAcquire := Driver.run_acquire .postgres pool s
    (w.emitted (.openPool pool true connectTimeout))
  rw [World.emitted_script, hOpens.hands] at hAcquire
  have hProbe := Driver.run_execute CatalogQuery.probe none s
    ((w.emitted (.openPool pool true connectTimeout)).emitted
      (.acquire .postgres pool))
  rw [World.emitted_script, World.emitted_script,
    hOpens.answers] at hProbe
  unfold tryPool
  rw [Act.run_bind_of_ok (by rw [hOpen]), hOpen,
    Act.run_bind_of_ok (by rw [hAcquire]), hAcquire,
    Act.run_discard, hProbe]
  rfl

theorem opens_of_tryPool
    {pool : Nat}
    {s : Session}
    {w : World}
    (hOk :
      ((tryPool .postgres pool).run s w).result = .ok ()) :
    w.script.openError pool = none ∧
      w.script.acquireError pool = none ∧
        w.script.reply.error = none := by
  unfold tryPool at hOk
  rcases Act.exists_of_run_bind_ok hOk with ⟨_, hOpen, hOk⟩
  rw [Driver.run_openPool] at hOpen hOk
  cases hFirst : w.script.openError pool with
  | some e =>
      rw [hFirst] at hOpen
      cases hOpen
  | none =>
      rw [hFirst] at hOk
      rcases Act.exists_of_run_bind_ok hOk with
        ⟨_, hAcquire, hOk⟩
      rw [Driver.run_acquire] at hAcquire hOk
      simp only [World.emitted_script] at hAcquire hOk
      cases hSecond : w.script.acquireError pool with
      | some e =>
          rw [hSecond] at hAcquire
          cases hAcquire
      | none =>
          rw [hSecond, Act.run_discard, Driver.run_execute]
            at hOk
          simp only [World.emitted_script] at hOk
          cases hThird : w.script.reply.error with
          | some e =>
              rw [hThird] at hOk
              cases hOk
          | none => exact ⟨rfl, rfl, rfl⟩

/- A pool is taken only if its trial ends well. -/
theorem tryPool_of_tryOrRelease
    {engine : Engine}
    {pool : Nat}
    {s : Session}
    {w : World}
    (hOk :
      ((tryOrRelease engine pool).run s w).result =
        .ok ()) :
    ((tryPool engine pool).run s w).result = .ok () := by
  cases hTried : ((tryPool engine pool).run s w).result with
  | ok a => rfl
  | error e =>
      unfold tryOrRelease at hOk
      rw [Act.run_rescue_of_error hTried] at hOk
      split at hOk
      · rw [hTried] at hOk
        cases hOk
      · rcases Act.exists_of_run_bind_ok hOk with ⟨_, -, hOk⟩
        cases hOk

variable {s : Session}
variable {config : ConnectionConfig}
variable {w : World}

/- Opening a session that ends well. -/
theorem connect_opens
    {connectionString : String}
    (hEngine : s.engine = .postgres)
    (hWith :
      OpensWith s.settings config connectionString w.script
        w.nextPool) :
    let out := (connect config).run s w
    out.result = .ok () ∧
      out.state =
          s.opened w.nextPool (config.databaseFor .postgres)
            config ∧
        out.world.events =
            w.events ++
              openingCalls w.nextPool connectionString
                s.settings.poolMaxSize ∧
          out.world.nextPool = w.nextPool + 1 := by
  intro out
  let options := postgresPoolOptions s.settings.poolMaxSize
  have hMade :
      (makePool .postgres config
          (config.databaseFor .postgres)).run s w =
        ⟨.ok w.nextPool, s,
          w.constructed connectionString options⟩ := by
    have hRoom : ¬ options.maxSize < options.minSize :=
      hWith.room
    have hPool :=
      Driver.run_createPostgresPool connectionString options
        s w
    rw [if_neg hRoom, hWith.drivers.constructs] at hPool
    rw [run_makePool_postgres, hWith.written]
    exact hPool
  have hTried :=
    run_tryPool_of_opens
      (w := w.constructed connectionString options)
      hWith.drivers s
  have hKept :
      (tryOrRelease .postgres w.nextPool).run s
          (w.constructed connectionString options) = _ :=
    Act.run_rescue_of_ok (by rw [hTried])
  rw [hTried] at hKept
  have hOut : out = _ := run_connect hEngine config w
  rw [Act.run_bind_of_ok (by rw [hMade]), hMade,
    Act.run_bind_of_ok (by rw [hKept]), hKept,
    Act.run_update_bind, Act.run_log] at hOut
  rw [hOut]
  refine ⟨rfl, rfl, ?_, rfl⟩
  simp [World.executed, World.emitted, World.constructed,
    openingCalls, options]

theorem opens_of_connect
    (hEngine : s.engine = .postgres)
    (hOk : ((connect config).run s w).result = .ok ()) :
    ∃ connectionString,
      OpensWith s.settings config connectionString w.script
        w.nextPool := by
  rw [run_connect hEngine] at hOk
  rcases Act.exists_of_run_bind_ok hOk with
    ⟨pool, hMade, hOk⟩
  rcases Act.exists_of_run_bind_ok hOk with ⟨_, hTried, -⟩
  replace hTried :=
    opens_of_tryPool (tryPool_of_tryOrRelease hTried)
  rw [run_makePool_postgres] at hMade hTried
  cases hString :
      KeywordString.sessionString config
        (config.databaseFor .postgres) with
  | error e =>
      rw [hString] at hMade
      cases hMade
  | ok connectionString =>
      let options := postgresPoolOptions s.settings.poolMaxSize
      simp only [hString, Driver.run_createPostgresPool]
        at hMade hTried
      by_cases hSmall : options.maxSize < options.minSize
      · rw [if_pos hSmall] at hMade
        cases hMade
      · rw [if_neg hSmall] at hMade hTried
        cases hConstruct : w.script.constructError with
        | some e =>
            rw [hConstruct] at hMade
            cases hMade
        | none =>
            rw [hConstruct] at hMade hTried
            cases hMade
            exact
              ⟨connectionString, hString, hSmall, hConstruct,
                hTried.1, hTried.2.1, hTried.2.2⟩

/- A session that is opened somewhere with a configuration
   that has a connection string uses that one. -/
theorem connect_calls
    {connectionString : String}
    (hEngine : s.engine = .postgres)
    (hString :
      KeywordString.sessionString config
          (config.databaseFor .postgres) =
        .ok connectionString)
    (hOk : ((connect config).run s w).result = .ok ()) :
    let out := (connect config).run s w
    out.state =
        s.opened w.nextPool (config.databaseFor .postgres)
          config ∧
      out.world.events =
        w.events ++
          openingCalls w.nextPool connectionString
            s.settings.poolMaxSize := by
  intro out
  rcases opens_of_connect hEngine hOk with
    ⟨otherString, hWith⟩
  have hSame := hWith.written.symm.trans hString
  cases hSame
  rcases connect_opens hEngine hWith with
    ⟨-, hState, hCalls, -⟩
  exact ⟨hState, hCalls⟩

theorem closes_of_disconnect
    {pool : Nat}
    (hEngine : s.engine = .postgres)
    (hPool : s.pool = some pool)
    (hOk : (disconnect.run s w).result = .ok ()) :
    let out := disconnect.run s w
    out.state = s.closed ∧
      out.world.events =
          w.events ++ [.closePool .postgres pool] ∧
        out.world.script = w.script ∧
          out.world.nextPool = w.nextPool := by
  intro out
  have hRun :
      out =
        (Act.wrapping (.closingFailed s.engine) (do
          Driver.releasePool s.engine pool
          Act.log .info
            (s.engine.title ++ " connection pool closed")) :
          Act Session Unit).run s.closed w := by
    simp only [out, disconnect, Act.run_state_bind,
      Act.run_update_bind, hPool]
  change out.result = .ok () at hOk
  have hClose :=
    Driver.run_releasePool_postgres pool s.closed w
  rw [hEngine, Act.run_wrapping] at hRun
  cases hScript : w.script.closeError pool with
  | some e =>
      rw [hScript] at hClose
      rw [Act.run_bind_of_error (by rw [hClose])] at hRun
      rw [hRun] at hOk
      cases hOk
  | none =>
      rw [hScript] at hClose
      rw [Act.run_bind_of_ok (by rw [hClose]), hClose,
        Act.run_log] at hRun
      rw [hRun]
      exact ⟨rfl, rfl, rfl, rfl⟩

/-
  Reopening a session that ends well: its pool is closed, and
  a new one is made as opening makes it.
-/
theorem reopen_opens
    {settings : Settings}
    {pool : Nat}
    {database : Value}
    {name : String}
    (hSession :
      s = (fresh .postgres settings).opened pool database
        config)
    (hOk : ((reopen name).run s w).result = .ok ()) :
    let config' := { config with database := .text name }
    let out := (reopen name).run s w
    ∃ connectionString,
      OpensWith settings config' connectionString w.script
          w.nextPool ∧
        out.state =
            (fresh .postgres settings).opened w.nextPool
              (config'.databaseFor .postgres) config' ∧
          out.world.events =
              w.events ++
                .closePool .postgres pool ::
                  openingCalls w.nextPool connectionString
                    settings.poolMaxSize ∧
            out.world.nextPool = w.nextPool + 1 := by
  intro config' out
  have hConfig : s.config = some config := by rw [hSession]; rfl
  have hPool : s.pool = some pool := by rw [hSession]; rfl
  have hEngine : s.engine = .postgres := by rw [hSession]; rfl
  have hClosed : s.closed = fresh .postgres settings := by
    rw [hSession]
    rfl
  have hRun : out = _ := run_reopen hConfig name w
  change out.result = .ok () at hOk
  rw [hRun] at hOk
  -- Both halves end well, and the second starts afresh.
  rcases Act.exists_of_run_bind_ok hOk with
    ⟨_, hDisconnect, hRest⟩
  rcases closes_of_disconnect hEngine hPool hDisconnect with
    ⟨hState, hEvents, hScript, hNext⟩
  rw [hState, hClosed] at hRest
  rcases Act.exists_of_run_bind_ok hRest with
    ⟨_, hConnect, -⟩
  rcases opens_of_connect rfl hConnect with
    ⟨connectionString, hWith⟩
  rcases connect_opens rfl hWith with
    ⟨hConnected, hOpened, hCalls, hAfter⟩
  rw [Act.run_bind_of_ok hDisconnect, hState, hClosed,
    Act.run_bind_of_ok hConnected, Act.run_log] at hRun
  rw [hScript, hNext] at hWith
  rw [hNext] at hOpened hCalls hAfter
  rw [hEvents, List.append_assoc] at hCalls
  rw [hRun]
  exact ⟨connectionString, hWith, hOpened, hCalls, hAfter⟩

end Session

------------------------------------------------------------
-- Histories of Switches
------------------------------------------------------------

namespace SessionHistory

/- The history of a PostgreSQL session that is opened, and
   then switched to one database after the other. -/
def switching
    (settings : Settings)
    (w : World)
    (script : Script)
    (config : ConnectionConfig)
    (switches : List (Script × String)) : SessionHistory :=
  let start : SessionHistory :=
    { session := Session.fresh .postgres settings, world := w }
  switches.foldl
    (fun h switch =>
      h.extend ⟨switch.1, .switchDatabase switch.2⟩)
    (start.extend ⟨script, .connect config⟩)

/- Each of a number of switches closes the pool of the turn
   before it, and then makes the next. -/
def ClosesFirst
    (settings : Settings)
    (start switches : Nat)
    (h : SessionHistory) : Prop :=
  ∀ i < switches, ∃ entry connectionString,
    h.entries[i + 1]? = some entry ∧
      entry.events =
        .closePool .postgres (start + i) ::
          Session.openingCalls (start + i + 1)
            connectionString settings.poolMaxSize

/-
  What holds after a number of switches that ended well: the
  session is as opened with the configuration of the start,
  but for the database; each turn took one pool, and made it
  after it had closed the one before.
-/
structure Replayed
    (settings : Settings)
    (config : ConnectionConfig)
    (start : Nat)
    (switches : Nat)
    (h : SessionHistory) : Prop where
  session :
    ∃ database,
      h.session =
        (Session.fresh .postgres settings).opened
          (start + switches)
          ({ config with database }.databaseFor .postgres)
          { config with database }
  nextPool : h.world.nextPool = start + switches + 1
  length : h.entries.length = switches + 1
  closes : h.ClosesFirst settings start switches

variable {settings : Settings}
variable {config : ConnectionConfig}
variable {start : Nat}
variable {w : World}
variable {h : SessionHistory}

theorem replayed_connect
    {script : Script}
    (hOk :
      (outcome
        { session := Session.fresh .postgres settings
          world := w } ⟨script, .connect config⟩).result =
        .ok ()) :
    Replayed settings config w.nextPool 0
      (switching settings w script config []) := by
  rcases Session.opens_of_connect rfl hOk with
    ⟨connectionString, hWith⟩
  rcases Session.connect_opens rfl hWith with
    ⟨-, hState, -, hNext⟩
  exact
    { session := ⟨config.database, hState⟩
      nextPool := hNext
      length := rfl
      closes := fun i hLt => absurd hLt (Nat.not_lt_zero i) }

/-
  One more switch that ends well opens the session anew.  It
  leaves what is left by opening a fresh session on that
  pool, with drivers that behave the same.
-/
theorem Replayed.switch
    {switches : Nat}
    {script : Script}
    {name : String}
    (hReplayed : Replayed settings config start switches h)
    (hOk :
      (h.outcome ⟨script, .switchDatabase name⟩).result =
        .ok ()) :
    let config' := { config with database := .text name }
    let pool := start + switches + 1
    let out := h.outcome ⟨script, .switchDatabase name⟩
    ∃ connectionString,
      Session.OpensWith settings config' connectionString
          script pool ∧
        out.state =
            (Session.fresh .postgres settings).opened pool
              (config'.databaseFor .postgres) config' ∧
          out.world.events =
              .closePool .postgres (start + switches) ::
                Session.openingCalls pool connectionString
                  settings.poolMaxSize ∧
            out.world.nextPool = pool + 1 := by
  intro config' pool out
  rcases hReplayed.session with ⟨database, hSession⟩
  have hOut :
      out =
        (Session.reopen name).run h.session
          (h.world.step script) := by
    have hConnected : h.session.connected = true := by
      rw [hSession]
      rfl
    have hEngine : h.session.engine = .postgres := by
      rw [hSession]
      rfl
    have hRun :=
      Session.run_switchDatabase name hConnected
        (h.world.step script)
    rw [hEngine] at hRun
    exact hRun
  change out.result = .ok () at hOk
  rw [hOut] at hOk ⊢
  rcases Session.reopen_opens hSession hOk with
    ⟨connectionString, hWith, hState, hEvents, hNext⟩
  have hPool : (h.world.step script).nextPool = pool :=
    hReplayed.nextPool
  rw [hPool] at hWith hState hEvents hNext
  exact ⟨connectionString, hWith, hState, hEvents, hNext⟩

theorem Replayed.extend
    {switches : Nat}
    {script : Script}
    {name : String}
    (hReplayed : Replayed settings config start switches h)
    (hOk :
      (h.outcome ⟨script, .switchDatabase name⟩).result =
        .ok ()) :
    Replayed settings config start (switches + 1)
      (h.extend ⟨script, .switchDatabase name⟩) := by
  rcases hReplayed.switch hOk with
    ⟨connectionString, -, hState, hEvents, hNext⟩
  refine
    { session := ⟨.text name, hState⟩
      nextPool := hNext
      length := ?_
      closes := ?_ }
  · simp [SessionHistory.extend, hReplayed.length]
  · intro i hLt
    simp only [SessionHistory.extend]
    rcases Nat.lt_succ_iff_lt_or_eq.mp hLt with
      hEarlier | rfl
    · rcases hReplayed.closes i hEarlier with
        ⟨entry, earlierString, hEntry, hCalls⟩
      refine ⟨entry, earlierString, ?_, hCalls⟩
      have hIn := (List.getElem?_eq_some_iff.mp hEntry).1
      rw [List.getElem?_append_left hIn]
      exact hEntry
    · refine
        ⟨h.entry ⟨script, .switchDatabase name⟩,
          connectionString, ?_, hEvents⟩
      rw [List.getElem?_append_right
        (Nat.le_of_eq hReplayed.length), hReplayed.length,
        Nat.sub_self]
      rfl

/- A history of switches by its last one. -/
theorem switching_concat
    (settings : Settings)
    (w : World)
    (script : Script)
    (config : ConnectionConfig)
    (earlier : List (Script × String))
    (last : Script × String) :
    switching settings w script config (earlier ++ [last]) =
      (switching settings w script config earlier).extend
        ⟨last.1, .switchDatabase last.2⟩ := by
  simp [switching, List.foldl_append]

theorem replayed_switching
    {script : Script}
    (switches : List (Script × String))
    (hOk :
      ∀ entry ∈
          (switching settings w script config
            switches).entries,
        entry.result = .ok ()) :
    Replayed settings config w.nextPool switches.length
      (switching settings w script config switches) := by
  induction switches using List.reverseRecOn with
  | nil =>
      apply replayed_connect
      exact hOk _ (List.mem_singleton_self _)
  | append_singleton earlier last ih =>
      rw [switching_concat] at hOk ⊢
      rw [List.length_append]
      have hEarlier := ih fun entry hEntry =>
        hOk entry (List.mem_append_left _ hEntry)
      apply hEarlier.extend
      exact hOk _
        (List.mem_append_right _ (List.mem_singleton_self _))

/-
  The last of the switches opens the session anew, with the
  configuration of the start but for the database, after it
  has closed the pool before.
-/
theorem switching_last
    {script : Script}
    {earlier : List (Script × String)}
    {last : Script × String}
    (hOk :
      ∀ entry ∈
          (switching settings w script config
            (earlier ++ [last])).entries,
        entry.result = .ok ()) :
    let h :=
      switching settings w script config (earlier ++ [last])
    let config' := { config with database := .text last.2 }
    let pool := w.nextPool + earlier.length + 1
    ∃ connectionString,
      Session.OpensWith settings config' connectionString
          last.1 pool ∧
        h.session =
            (Session.fresh .postgres settings).opened pool
              (config'.databaseFor .postgres) config' ∧
          h.entries.getLast?.map Entry.events =
            some (.closePool .postgres (pool - 1) ::
              Session.openingCalls pool connectionString
                settings.poolMaxSize) := by
  intro h config' pool
  have hLast :
      h = (switching settings w script config
        earlier).extend ⟨last.1, .switchDatabase last.2⟩ :=
    switching_concat settings w script config earlier last
  change ∀ entry ∈ h.entries, entry.result = .ok () at hOk
  rw [hLast] at hOk ⊢
  have hEarlier := replayed_switching earlier
    fun entry hEntry =>
      hOk entry (List.mem_append_left _ hEntry)
  rcases hEarlier.switch (hOk _ (List.mem_append_right _
      (List.mem_singleton_self _))) with
    ⟨connectionString, hWith, hState, hEvents, -⟩
  refine ⟨connectionString, hWith, hState, ?_⟩
  simp only [SessionHistory.extend, List.getLast?_append]
  exact congrArg some hEvents

/- What opening a fresh PostgreSQL session gives. -/
def opening
    (settings : Settings)
    (config : ConnectionConfig)
    (w : World) : Outcome Session Unit :=
  (Session.connect config).run
    (Session.fresh .postgres settings) w

/-
  The last turn of a history opened a session with this
  connection string, after it had closed the pool before.
  Where a fresh session is opened elsewhere, it differs in
  the number of its pool only, which is made by the same
  calls.
-/
structure LastOpened
    (settings : Settings)
    (config : ConnectionConfig)
    (pool : Nat)
    (connectionString : String)
    (h : SessionHistory) : Prop where
  calls :
    h.entries.getLast?.map Entry.events =
      some (.closePool .postgres (pool - 1) ::
        Session.openingCalls pool connectionString
          settings.poolMaxSize)
  session_elsewhere :
    ∀ world : World,
      (opening settings config world).result = .ok () →
        (opening settings config world).state =
          { h.session with pool := some world.nextPool }
  calls_elsewhere :
    ∀ world : World,
      (opening settings config world).result = .ok () →
        (opening settings config world).world.events =
          world.events ++
            Session.openingCalls world.nextPool
              connectionString settings.poolMaxSize

/-
  The session of a history is the one that opening a fresh
  session gives, on the same pool and with drivers that
  behave the same, and its pool was made as opening makes
  it.
-/
structure OpenedAnew
    (settings : Settings)
    (config : ConnectionConfig)
    (database : Value)
    (script : Script)
    (pool : Nat)
    (h : SessionHistory) : Prop where
  opens :
    (opening settings config
      { script, nextPool := pool }).result = .ok ()
  session :
    (opening settings config
      { script, nextPool := pool }).state = h.session
  last :
    ∃ connectionString,
      KeywordString.sessionString config database =
          .ok connectionString ∧
        h.LastOpened settings config pool connectionString

/-
  If a PostgreSQL session is opened and then switched any
  number of times, at least once, and all of that ends well,
  then the session is opened anew, with the last database in
  place of the first and nothing else changed; and each
  switch closes the pool before it makes the next.
-/
theorem switching_replays_connect
    {script : Script}
    {earlier : List (Script × String)}
    {last : Script × String}
    (hOk :
      ∀ entry ∈
          (switching settings w script config
            (earlier ++ [last])).entries,
        entry.result = .ok ()) :
    let h :=
      switching settings w script config (earlier ++ [last])
    let config' := { config with database := .text last.2 }
    let database : Value :=
      .text (if last.2 = "" then "postgres" else last.2)
    let pool := w.nextPool + earlier.length + 1
    h.OpenedAnew settings config' database last.1 pool ∧
      KeywordString.SameButDatabase
        (KeywordString.sessionParameters config' database)
        (KeywordString.sessionParameters config
          (config.databaseFor .postgres)) ∧
      h.ClosesFirst settings w.nextPool
        (earlier.length + 1) := by
  intro h config' database pool
  have hReplayed := replayed_switching _ hOk
  rw [List.length_append] at hReplayed
  rcases switching_last hOk with
    ⟨connectionString, hWith, hSession, hCalls⟩
  have hDatabase : config'.databaseFor .postgres = database :=
    ConnectionConfig.databaseFor_text rfl
  rcases Session.connect_opens
      (s := Session.fresh .postgres settings)
      (w := { script := last.1, nextPool := pool }) rfl hWith
    with ⟨hOpens, hOpened, -, -⟩
  have hLast :
      h.LastOpened settings config' pool connectionString := by
    refine ⟨hCalls, ?_, ?_⟩
    · intro world hOk
      rw [hSession]
      exact (Session.connect_calls rfl hWith.written hOk).1
    · intro world hOk
      exact (Session.connect_calls rfl hWith.written hOk).2
  refine ⟨⟨hOpens, hOpened.trans hSession.symm,
    connectionString, ?_, hLast⟩, ?_, hReplayed.closes⟩
  · rw [← hDatabase]
    exact hWith.written
  · exact KeywordString.sameButDatabase config _ _ database

/- A configuration with a password and a database. -/
def ordersConfig : ConnectionConfig where
  engine := "postgres"
  server := .text "db"
  database := .text "orders"
  user := .text "reader"
  password := .text "a b"
  tls := .switch true

/- Switched to one database and then to none in particular,
   the session is as opened with that from the start. -/
theorem switching_replays_ordersConfig :
    let quiet : Script := {}
    let h :=
      switching .unset {} quiet ordersConfig
        ([(quiet, "sales")] ++ [(quiet, "")])
    let same :=
      (Session.connect
          { ordersConfig with database := .text "" }).run
        (Session.fresh .postgres .unset) { nextPool := 3 }
    (∀ entry ∈ h.entries, entry.result = .ok ()) ∧
      same.result = .ok () ∧ same.state = h.session := by
  intro quiet h same
  have hAll :
      (h.entries.all fun entry => entry.result.isOk) =
        true := by
    decide +kernel
  have hOk : ∀ entry ∈ h.entries, entry.result = .ok () := by
    intro entry hMem
    have hIsOk := List.all_eq_true.mp hAll entry hMem
    cases hResult : entry.result with
    | ok a => rfl
    | error e =>
        rw [hResult] at hIsOk
        cases hIsOk
  have hAnew := (switching_replays_connect hOk).1
  exact ⟨hOk, hAnew.opens, hAnew.session⟩

end SessionHistory

end SqlGateway
