import SqlGateway.Proofs.Driver.Fleet
import SqlGateway.Proofs.Session.Lifecycle

/-
  This file follows the physical connections through the
  operations of a session with SQL Server.  A connection
  that the session takes is in the database that the session
  reports before its statement is sent, whichever connection
  it is; and the statement is not sent where that fails.

  Key definitions include:
    * `Server.Lawful`
    * `Session.reportedPlace?`
    * `Session.Placed`
    * `Session.Pointed` and `Session.Sent`
    * `Session.Queried`

  Main declarations:
    * `Session.takeConnection_pointed`
    * `Session.send_queried`
-/

namespace SqlGateway

open Act (Keeps)

------------------------------------------------------------
-- Servers and Places
------------------------------------------------------------

/-
  A server does as SQL Server does: USE moves a connection
  to the database it names, and the statements that the
  gateway sends on its own move none.
-/
structure Server.Lawful (server : Server) : Prop where
  use :
    ∀ name : String,
      server.movesTo? ("USE " ++ name) = some name
  probe : server.movesTo? CatalogQuery.probe = none
  listDatabases :
    server.movesTo?
      (CatalogQuery.listDatabases .sqlServer) = none
  listTables :
    server.movesTo?
      (CatalogQuery.listTables .sqlServer) = none
  describeTable :
    server.movesTo?
      (CatalogQuery.describeTable .sqlServer) = none

namespace Place

/- Where the connection string for a database leads. -/
def ofConfig
    (settings : Settings)
    (config : ConnectionConfig)
    (database : Value) : Place :=
  .opened
    (AttributeString.sessionString settings.odbcDriver config
      database)

/- Where the escaped name of a database leads. -/
def ofName? (database : String) : Option Place :=
  (Identifier.escape? .sqlServer database.toList).map
    fun name => .named (String.ofList name)

end Place

namespace Session

/-
  The place of the database that a session reports: where
  the connection string for it leads, or its escaped name,
  once the session was switched.
-/
def reportedPlace? (s : Session) : Option Place :=
  if s.switched then
    Place.ofName? s.database.displayText
  else
    s.config.map fun config =>
      .ofConfig s.settings config s.database

/- USE names the place that a database is reported at. -/
theorem eq_of_useStatement
    {database statement : String}
    (hUse : useStatement database = .ok statement) :
    ∃ name, Place.ofName? database = some (.named name) ∧
      statement = "USE " ++ name := by
  unfold useStatement at hUse
  unfold Place.ofName?
  cases hName :
      Identifier.escape? .sqlServer database.toList with
  | none =>
      rw [hName] at hUse
      cases hUse
  | some name =>
      rw [hName] at hUse
      have hText := Except.ok.inj hUse
      exact ⟨String.ofList name, rfl, hText.symm⟩

theorem moves_of_useStatement
    {server : Server}
    (hLawful : server.Lawful)
    {database statement : String}
    (hUse : useStatement database = .ok statement) :
    ∃ name, Place.ofName? database = some (.named name) ∧
      server.movesTo? statement = some name := by
  rcases eq_of_useStatement hUse with ⟨name, hName, hText⟩
  refine ⟨name, hName, ?_⟩
  rw [hText]
  exact hLawful.use name

theorem not_isUse_of_stays
    {server : Server}
    (hLawful : server.Lawful)
    {statement : String}
    (hStays : server.movesTo? statement = none) :
    ¬ IsUse statement := by
  rintro ⟨database, hUse⟩
  rcases moves_of_useStatement hLawful hUse with
    ⟨name, -, hMoves⟩
  rw [hStays] at hMoves
  cases hMoves

/-
  A session is open on a pool, and reports a place; as long
  as it was not switched, all connections of the pool are
  there.
-/
structure Placed
    (s : Session)
    (pool : Nat)
    (f : Fleet) : Prop where
  engine_eq : s.engine = .sqlServer
  pool_eq : s.pool = some pool
  reports : s.reportedPlace?.isSome = true
  everywhere :
    s.switched = false →
      ∀ c, s.reportedPlace? = some (f.place pool c)

/- A session stays placed while the connections of its pool
   stay where they are. -/
theorem Placed.of_place
    {s : Session}
    {pool : Nat}
    {f f' : Fleet}
    (hPlaced : s.Placed pool f)
    (hPlace :
      s.switched = false → f'.place pool = f.place pool) :
    s.Placed pool f' where
  engine_eq := hPlaced.engine_eq
  pool_eq := hPlaced.pool_eq
  reports := hPlaced.reports
  everywhere hSwitched c := by
    rw [hPlace hSwitched]
    exact hPlaced.everywhere hSwitched c

end Session

------------------------------------------------------------
-- Calls of Drivers
------------------------------------------------------------

/-
  Between a world and a later one the calls of drivers make
  one fleet from another.  They run some statements and make
  no pool, and the fleet plays the same script as the world.
-/
structure Fleet.Runs
    (server : Server)
    (f : Fleet)
    (w w' : World)
    (f' : Fleet)
    (ran : List Execution) : Prop where
  becomes : f.Becomes server w w' f'
  script_eq : f'.script = w'.script
  nextPool_eq : w'.nextPool = w.nextPool
  executions_eq : f'.executions = f.executions ++ ran

theorem Fleet.Runs.trans
    {server : Server}
    {f f' f'' : Fleet}
    {w w' w'' : World}
    {ran more : List Execution}
    (hFirst : f.Runs server w w' f' ran)
    (hSecond : f'.Runs server w' w'' f'' more) :
    f.Runs server w w'' f'' (ran ++ more) where
  becomes := hFirst.becomes.trans hSecond.becomes
  script_eq := hSecond.script_eq
  nextPool_eq :=
    hSecond.nextPool_eq.trans hFirst.nextPool_eq
  executions_eq := by
    rw [hSecond.executions_eq, hFirst.executions_eq,
      List.append_assoc]

namespace Driver

variable {σ : Type}
variable {f : Fleet}
variable {w : World}

theorem acquire_runs
    (server : Server)
    (hScript : f.script = w.script)
    (engine : Engine)
    (pool : Nat)
    (s : σ) :
    let out := (acquire engine pool).run s w
    out.state = s ∧
      f.Runs server w out.world (f.taking server pool) [] ∧
      ((out.result = .ok () ∧
          f.script.acquireError pool = none) ∨
        ∃ e, out.result = .error e) := by
  intro out
  have hOut : out = (acquire engine pool).run s w := rfl
  rw [run_acquire] at hOut
  have hTaking :
      ∀ w', w'.events = w.events ++ [.acquire engine pool] →
          w'.script = w.script →
          w'.nextPool = w.nextPool →
        f.Runs server w w' (f.taking server pool) [] := by
    intro w' hEvents hSame hNext
    constructor
    · exact .ofEmitted (.acquire engine pool) hEvents
    · rw [Fleet.script_taking, hScript, hSame]
    · exact hNext
    · rw [Fleet.executions_taking, List.append_nil]
  cases hError : w.script.acquireError pool with
  | none =>
      rw [hError] at hOut
      rw [hOut, hScript]
      exact ⟨rfl, hTaking _ rfl rfl rfl, .inl ⟨rfl, hError⟩⟩
  | some e =>
      rw [hError] at hOut
      rw [hOut]
      exact ⟨rfl, hTaking _ rfl rfl rfl, .inr ⟨e, rfl⟩⟩

/- A statement runs on the connection in use. -/
theorem execute_runs
    (server : Server)
    (hScript : f.script = w.script)
    (statement : String)
    (parameters : Option (List Value))
    (s : σ) :
    let out := (execute statement parameters).run s w
    let x : Execution :=
      ⟨statement, f.current?, f.script.reply.error⟩
    out.state = s ∧
      f.Runs server w out.world (f.executing server statement)
        [x] ∧
      ((∃ reply, out.result = .ok reply) ∧ x.error = none ∨
        ∃ e, out.result = .error e ∧ x.error = some e) := by
  intro out x
  have hOut :
      out = (execute statement parameters).run s w := rfl
  rw [run_execute, ← hScript] at hOut
  have hRuns :
      ∀ w', w'.events = w.events ++
            [.execute statement parameters] →
          w'.script = w.script.played →
          w'.nextPool = w.nextPool →
        f.Runs server w w' (f.executing server statement)
          [x] := by
    intro w' hEvents hPlayed hNext
    constructor
    · exact .ofEmitted (.execute statement parameters) hEvents
    · rw [Fleet.script_executing, hScript, hPlayed]
    · exact hNext
    · exact Fleet.executions_executing server f statement
  cases hError : f.script.reply.error with
  | none =>
      rw [hError] at hOut
      rw [hOut]
      exact
        ⟨rfl, hRuns _ rfl rfl rfl, .inl ⟨⟨_, rfl⟩, hError⟩⟩
  | some e =>
      rw [hError] at hOut
      rw [hOut]
      exact
        ⟨rfl, hRuns _ rfl rfl rfl, .inr ⟨e, rfl, hError⟩⟩

end Driver

namespace Session

variable {server : Server}
variable {s : Session}
variable {f : Fleet}
variable {w : World}
variable {pool : Nat}

------------------------------------------------------------
-- Taking a Connection
------------------------------------------------------------

/-
  How the taking of a connection ended, and what ran for it:
  the connection is where the session reports, and nothing
  but USE was run on it; or none was handed out; or USE
  failed on it.
-/
inductive Pointed
    (s : Session)
    (f : Fleet) :
    Except Failure Unit → List Execution → Prop where
  | ready
      {uses : List Execution}
      (hUses : ∀ x ∈ uses,
        IsUse x.statement ∧ x.error = none)
      (hCurrent : f.current? = s.reportedPlace?) :
      Pointed s f (.ok ()) uses
  | untaken (e : Failure) : Pointed s f (.error e) []
  | unmoved
      {e : Failure}
      {x : Execution}
      (hUse : IsUse x.statement)
      (hError : x.error = some e) :
      Pointed s f (.error e) [x]

/- A connection that was handed out is where the session
   reports, or USE points it there. -/
theorem repoint_pointed
    (hLawful : server.Lawful)
    (hScript : f.script = w.script)
    (hInUse : f.inUse.isSome = true)
    (hStart :
      s.switched = false → f.current? = s.reportedPlace?) :
    let out := repoint.run s w
    out.state = s ∧ ∃ f' ran,
      f.Runs server w out.world f' ran ∧
        (s.switched = false → f'.place = f.place) ∧
        Pointed s f' out.result ran := by
  intro out
  have hNothing : f.Runs server w w f [] := by
    constructor
    · exact .ofSameEvents rfl
    · exact hScript
    · rfl
    · rw [List.append_nil]
  by_cases hSwitched : s.switched = true
  · cases hUse : useStatement s.database.displayText with
    | error e =>
        have hOut : out = ⟨.error e, s, w⟩ := by
          simp [out, repoint, hSwitched, hUse]
        rw [hOut]
        refine ⟨rfl, f, [], hNothing, fun _ => rfl, ?_⟩
        exact .untaken e
    | ok statement =>
        have hOut :
            out =
              (discard
                (Driver.execute statement (some [])) :
                Act Session Unit).run s w := by
          simp only [out, repoint, Act.run_state_bind,
            hSwitched, if_true, hUse,
            Act.run_ofExcept_ok_bind]
        have hIs : IsUse statement := ⟨_, hUse⟩
        rcases moves_of_useStatement hLawful hUse with
          ⟨name, hName, hMoves⟩
        have hReported :
            s.reportedPlace? = some (.named name) := by
          unfold reportedPlace?
          rw [if_pos hSwitched]
          exact hName
        rcases Driver.execute_runs server hScript
            statement (some []) s with
          ⟨hState, hRuns, ⟨⟨reply, hOk⟩, hNone⟩ |
            ⟨e, hError, hFailed⟩⟩
        · rw [hOut, Act.run_discard, hOk]
          refine ⟨hState, _, _, hRuns, ?_, ?_⟩
          · intro hNot
            rw [hSwitched] at hNot
            cases hNot
          · apply Pointed.ready
            · intro x hMem
              rw [List.mem_singleton.mp hMem]
              exact ⟨hIs, hNone⟩
            · rw [hReported]
              exact Fleet.current?_executing server f hMoves
                hNone hInUse
        · rw [hOut, Act.run_discard, hError]
          refine ⟨hState, _, _, hRuns, ?_, ?_⟩
          · intro hNot
            rw [hSwitched] at hNot
            cases hNot
          · exact .unmoved hIs hFailed
  · have hNot : s.switched = false := by
      simpa using hSwitched
    have hOut : out = ⟨.ok (), s, w⟩ := by
      simp [out, repoint, hNot]
    rw [hOut]
    refine ⟨rfl, f, [], hNothing, fun _ => rfl, ?_⟩
    apply Pointed.ready
    · intro x hMem
      cases hMem
    · exact hStart hNot

/-
  Whichever connection is handed out, it is where the
  session reports before anything else runs on it; or the
  taking fails.
-/
theorem takeConnection_pointed
    (hLawful : server.Lawful)
    (hPlaced : s.Placed pool f)
    (hScript : f.script = w.script) :
    let out := takeConnection.run s w
    out.state = s ∧ ∃ f' ran,
      f.Runs server w out.world f' ran ∧
        (s.switched = false → f'.place = f.place) ∧
        Pointed s f' out.result ran := by
  intro out
  have hOut :
      out =
        (Driver.acquire s.engine pool >>= fun _ =>
          repoint).run s w := by
    simp only [out, takeConnection, Act.run_state_bind]
    exact run_poolNumber_bind hPlaced.pool_eq _ w
  rcases Driver.acquire_runs server hScript
      s.engine pool s with
    ⟨hState, hRuns, ⟨hOk, hNone⟩ | ⟨e, hError⟩⟩
  · rw [Act.run_bind_of_ok hOk, hState] at hOut
    have hCurrent := Fleet.current?_taking server f hNone
    have hInUse :
        (f.taking server pool).inUse.isSome = true := by
      simp [Fleet.taking, hNone]
    -- Unswitched, all connections of the pool are there, so
    -- it does not matter which one was handed out.
    have hStart :
        s.switched = false →
          (f.taking server pool).current? =
            s.reportedPlace? := by
      intro hSwitched
      rw [hCurrent]
      exact (hPlaced.everywhere hSwitched _).symm
    rcases repoint_pointed hLawful hRuns.script_eq hInUse
        hStart with
      ⟨hSame, f', ran, hLater, hPlace, hPointed⟩
    rw [hOut]
    refine ⟨hSame, f', ran, hRuns.trans hLater, ?_, hPointed⟩
    intro hSwitched
    rw [hPlace hSwitched, Fleet.place_taking]
  · rw [Act.run_bind_of_error hError] at hOut
    rw [hOut]
    refine ⟨hState, _, _, hRuns, ?_, .untaken e⟩
    intro _
    exact Fleet.place_taking server f pool

------------------------------------------------------------
-- Sending a Statement
------------------------------------------------------------

/-
  What ran for an operation with one statement.  The
  statement ran where the session reports, behind USE at
  most; or nothing ran; or only USE did, and its failure is
  what the operation failed with, put into a larger one.
-/
inductive Sent
    {α : Type}
    (s : Session)
    (submitted : String → Prop)
    (wrap : Failure → Failure) :
    Except Failure α → List Execution → Prop where
  | sent
      {result : Except Failure α}
      {uses : List Execution}
      {x : Execution}
      (hUses : ∀ u ∈ uses,
        IsUse u.statement ∧ u.error = none)
      (hStatement : submitted x.statement)
      (hPlace : x.place = s.reportedPlace?) :
      Sent s submitted wrap result (uses ++ [x])
  | unsent (e : Failure) :
      Sent s submitted wrap (.error e) []
  | unpointed
      {e : Failure}
      {x : Execution}
      (hUse : IsUse x.statement)
      (hError : x.error = some e) :
      Sent s submitted wrap (.error (wrap e)) [x]

/- The failures of an operation may be put into larger
   ones. -/
theorem Sent.wrapped
    {α : Type}
    {submitted : String → Prop}
    {result : Except Failure α}
    {ran : List Execution}
    (hSent : Sent s submitted id result ran)
    (wrap : Failure → Failure) :
    Sent s submitted wrap (result.mapError wrap) ran := by
  cases hSent with
  | sent hUses hStatement hPlace =>
      exact .sent hUses hStatement hPlace
  | unsent e => exact .unsent (wrap e)
  | unpointed hUse hError => exact .unpointed hUse hError

/- The value of an operation may lead to another result. -/
theorem Sent.andThen
    {α β : Type}
    {submitted : String → Prop}
    {wrap : Failure → Failure}
    {result : Except Failure α}
    {ran : List Execution}
    (hSent : Sent s submitted wrap result ran)
    (next : α → Except Failure β) :
    Sent s submitted wrap (result >>= next) ran := by
  cases hSent with
  | sent hUses hStatement hPlace =>
      exact .sent hUses hStatement hPlace
  | unsent e => exact .unsent e
  | unpointed hUse hError => exact .unpointed hUse hError

/-
  What an operation with one statement leaves: the session
  as it was, all connections where they were if the session
  was not switched, and a record of what ran.
-/
structure Queried
    {α : Type}
    (server : Server)
    (s : Session)
    (submitted : String → Prop)
    (wrap : Failure → Failure)
    (f : Fleet)
    (w : World)
    (out : Outcome Session α) : Prop where
  state_eq : out.state = s
  nextPool_eq : out.world.nextPool = w.nextPool
  ran :
    ∃ f' ran,
      f.Becomes server w out.world f' ∧
        f'.executions = f.executions ++ ran ∧
        (s.switched = false → f'.place = f.place) ∧
        Sent s submitted wrap out.result ran

section

variable {α β : Type}
variable {submitted : String → Prop}
variable {wrap : Failure → Failure}
variable {out : Outcome Session α}

/- The failures of an operation may be put into larger
   ones. -/
theorem Queried.wrapped
    (hQueried : Queried server s submitted id f w out)
    (wrap : Failure → Failure) :
    Queried server s submitted wrap f w
      ⟨out.result.mapError wrap, out.state, out.world⟩ := by
  rcases hQueried.ran with
    ⟨f', ran, hBecomes, hRan, hPlace, hSent⟩
  exact
    ⟨hQueried.state_eq, hQueried.nextPool_eq, f', ran,
      hBecomes, hRan, hPlace, hSent.wrapped wrap⟩

/- The value of an operation may lead to another result. -/
theorem Queried.andThen
    (hQueried : Queried server s submitted wrap f w out)
    (next : α → Except Failure β) :
    Queried server s submitted wrap f w
      ⟨out.result >>= next, out.state, out.world⟩ := by
  rcases hQueried.ran with
    ⟨f', ran, hBecomes, hRan, hPlace, hSent⟩
  exact
    ⟨hQueried.state_eq, hQueried.nextPool_eq, f', ran,
      hBecomes, hRan, hPlace, hSent.andThen next⟩

theorem Queried.discard
    {act : Act Session α}
    (hQueried :
      Queried server s submitted wrap f w (act.run s w)) :
    Queried server s submitted wrap f w
      ((Functor.discard act).run s w) := by
  have hUnit := hQueried.andThen fun _ => .ok PUnit.unit
  rw [Act.run_discard]
  cases hResult : (act.run s w).result with
  | ok a =>
      rw [hResult] at hUnit
      exact hUnit
  | error e =>
      rw [hResult] at hUnit
      exact hUnit

end

/-
  An operation takes a connection, sends one statement that
  moves nothing, and then only reads.
-/
theorem send_queried
    {α : Type}
    {submitted : String → Prop}
    {statement : String}
    {parameters : Option (List Value)}
    {next : Reply → Act Session α}
    (hLawful : server.Lawful)
    (hPlaced : s.Placed pool f)
    (hScript : f.script = w.script)
    (hSubmitted : submitted statement)
    (hStays : server.movesTo? statement = none)
    (hNext : ∀ reply,
      Keeps (· = s) (Progress.idle server) (next reply)) :
    Queried server s submitted id f w
      ((takeConnection >>= fun _ =>
        Driver.execute statement parameters >>= next).run s
          w) := by
  rcases takeConnection_pointed hLawful hPlaced hScript with
    ⟨hState, f₁, uses, hRuns, hPlace, hPointed⟩
  cases hTaken : (takeConnection.run s w).result with
  | error e =>
      rw [Act.run_bind_of_error hTaken]
      refine ⟨hState, hRuns.nextPool_eq, f₁, uses,
        hRuns.becomes, hRuns.executions_eq, hPlace, ?_⟩
      rw [hTaken] at hPointed
      cases hPointed with
      | untaken e => exact .unsent e
      | unmoved hUse hError => exact .unpointed hUse hError
  | ok a =>
      rw [Act.run_bind_of_ok hTaken, hState]
      rw [hTaken] at hPointed
      rcases hPointed with ⟨hUses, hCurrent⟩
      rcases Driver.execute_runs server
          hRuns.script_eq statement parameters s with
        ⟨hSame, hMore, hResult⟩
      have hBoth := hRuns.trans hMore
      have hStill :
          s.switched = false →
            (f₁.executing server statement).place =
              f.place := by
        intro hSwitched
        rw [Fleet.place_executing_of_stays server f₁ hStays]
        exact hPlace hSwitched
      -- The statement ran where the session reports, however
      -- it ended and whatever is read afterwards.
      have hSent : ∀ result : Except Failure α,
          Sent s submitted id result
            (uses ++
              [⟨statement, f₁.current?,
                f₁.script.reply.error⟩]) :=
        fun _ => .sent hUses hSubmitted hCurrent
      rcases hResult with
        ⟨⟨reply, hOk⟩, -⟩ | ⟨e, hError, -⟩
      · rw [Act.run_bind_of_ok hOk, hSame]
        have hRead := hNext reply s
          ((Driver.execute statement parameters).run s
            (takeConnection.run s w).world).world rfl
        refine ⟨hRead.1, ?_, _, _, ?_, hBoth.executions_eq,
          hStill, hSent _⟩
        · exact hRead.2.1.trans hBoth.nextPool_eq
        · exact hBoth.becomes.trans (hRead.2.2 _)
      · rw [Act.run_bind_of_error hError]
        exact
          ⟨hSame, hBoth.nextPool_eq, _, _, hBoth.becomes,
            hBoth.executions_eq, hStill, hSent _⟩

theorem fetchAll_idle
    {inv : Session → Prop}
    (engine : Engine)
    (reply : Reply) :
    Keeps inv (Progress.idle server)
      (Driver.fetchAll engine reply) := by
  apply Driver.fetchAll_keeps
  exact Progress.idle_admits fun _ => rfl

end Session

end SqlGateway
